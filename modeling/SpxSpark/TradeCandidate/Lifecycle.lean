import SpxSpark.Lib.Recent
import SpxSpark.TradeCandidate.Advance

/-!
# Lifecycle — what one call keeps of the lifecycles so far

The lifecycles so far are two lists: the candidates that were armed, and those that ended, each with
its phase.
-/

namespace SpxSpark.TradeCandidate

open Lib Strategy TradeIntent List

/-! ## Records -/

def AuditRecord.armed? : AuditRecord → Option Text
  | .armed candidate => some candidate.candidateId
  | .terminal _ => none

def AuditRecord.ended? : AuditRecord → Option (Text × CandidatePhase)
  | .armed _ => none
  | .terminal record => some (record.candidate.candidateId, record.phase)

def armedIds (records : List AuditRecord) : List Text := records.filterMap AuditRecord.armed?

/-- The candidates that end in a list of records, and how. -/
def endedIn (records : List AuditRecord) : List (Text × CandidatePhase) :=
  records.filterMap AuditRecord.ended?

def AuditRecord.key (record : AuditRecord) : AuditEvent × Text :=
  (record.event, record.candidate.candidateId)

variable {records : List AuditRecord} {record : AuditRecord} {id : Text} {phase : CandidatePhase}

theorem mem_armedIds : id ∈ armedIds records ↔ ∃ c, .armed c ∈ records ∧ c.candidateId = id := by
  unfold armedIds
  rw [mem_filterMap]
  constructor
  · rintro ⟨record, hmem, hid⟩
    cases record with
    | armed c => exact ⟨c, hmem, Option.some.inj hid⟩
    | terminal t => cases hid
  · rintro ⟨c, hmem, rfl⟩
    exact ⟨.armed c, hmem, rfl⟩

theorem mem_endedIn : (id, phase) ∈ endedIn records ↔
    ∃ t, .terminal t ∈ records ∧ t.candidate.candidateId = id ∧ t.phase = phase := by
  unfold endedIn
  rw [mem_filterMap]
  constructor
  · rintro ⟨record, hmem, hended⟩
    cases record with
    | armed c => cases hended
    | terminal t =>
      obtain ⟨hid, hphase⟩ := Prod.mk.inj (Option.some.inj hended)
      exact ⟨t, hmem, hid, hphase⟩
  · rintro ⟨t, hmem, rfl, rfl⟩
    exact ⟨.terminal t, hmem, rfl⟩

theorem armedIds_append (front back : List AuditRecord) :
    armedIds (front ++ back) = armedIds front ++ armedIds back := filterMap_append

theorem endedIn_append (front back : List AuditRecord) :
    endedIn (front ++ back) = endedIn front ++ endedIn back := filterMap_append

theorem keys_nodup (harmed : (armedIds records).Nodup)
    (hended : ((endedIn records).map (·.1)).Nodup) : (records.map AuditRecord.key).Nodup := by
  induction records with
  | nil => exact nodup_nil
  | cons record rest ih =>
    cases record with
    | armed c =>
      have hcons : (c.candidateId :: armedIds rest).Nodup := harmed
      obtain ⟨hfresh, hrest⟩ := nodup_cons.mp hcons
      refine nodup_cons.mpr ⟨fun hmem => ?_, ih hrest hended⟩
      obtain ⟨other, hother, hkey⟩ := mem_map.mp hmem
      cases other with
      | armed c' =>
        exact hfresh (mem_armedIds.mpr ⟨c', hother, (Prod.mk.inj hkey).2⟩)
      | terminal t => cases (Prod.mk.inj hkey).1
    | terminal t =>
      have hcons : (t.candidate.candidateId :: (endedIn rest).map (·.1)).Nodup := hended
      obtain ⟨hfresh, hrest⟩ := nodup_cons.mp hcons
      refine nodup_cons.mpr ⟨fun hmem => ?_, ih harmed hrest⟩
      obtain ⟨other, hother, hkey⟩ := mem_map.mp hmem
      cases other with
      | armed c => cases (Prod.mk.inj hkey).1
      | terminal t' =>
        refine hfresh (mem_map.mpr ⟨(t'.candidate.candidateId, t'.phase), ?_,
          (Prod.mk.inj hkey).2⟩)
        exact mem_endedIn.mpr ⟨t', hother, rfl, rfl⟩

/-! ## The order -/

/-- The lifecycles so far, and what a state or a call knows of them. -/
structure Coherent (armed : List Text) (ended : List (Text × CandidatePhase))
    (active : Option Candidate) (completed : List Text) (candidates : List (Text × Terminal)) :
    Prop where
  named : ∀ id ∈ armed, '|' ∈ id
  armed_nodup : armed.Nodup
  ended_nodup : (ended.map (·.1)).Nodup
  ended_armed : ∀ id ∈ ended.map (·.1), id ∈ armed
  active_iff : ∀ id, (id ∈ armed ∧ id ∉ ended.map (·.1)) ↔
    ∃ c, active = some c ∧ c.candidateId = id
  completed_ended : ∀ id ∈ completed, id ∈ ended.map (·.1)
  phases : ∀ row ∈ candidates, (row.1, row.2.phase) ∈ ended

variable {armed : List Text} {ended : List (Text × CandidatePhase)} {active : Option Candidate}
  {completed : List Text} {candidates : List (Text × Terminal)} {c : Candidate}

theorem Coherent.active_armed (h : Coherent armed ended (some c) completed candidates) :
    c.candidateId ∈ armed ∧ c.candidateId ∉ ended.map (·.1) :=
  (h.active_iff _).mpr ⟨c, rfl, rfl⟩

theorem coherent_nil : Coherent [] [] none [] [] where
  named := fun _ h => by cases h
  armed_nodup := nodup_nil
  ended_nodup := nodup_nil
  ended_armed := fun _ h => h
  active_iff := by
    intro id
    constructor
    · rintro ⟨h, -⟩
      cases h
    · rintro ⟨c, h, -⟩
      cases h
  completed_ended := fun _ h => h
  phases := fun _ h => by cases h

theorem Coherent.mono {active' : Option Candidate} {completed' : List Text}
    {candidates' : List (Text × Terminal)} (h : Coherent armed ended active completed candidates)
    (hactive : active'.map (·.candidateId) = active.map (·.candidateId))
    (hcompleted : ∀ id ∈ completed', id ∈ completed)
    (hcandidates : ∀ row ∈ candidates', row ∈ candidates) :
    Coherent armed ended active' completed' candidates' where
  named := h.named
  armed_nodup := h.armed_nodup
  ended_nodup := h.ended_nodup
  ended_armed := h.ended_armed
  active_iff := by
    have hnames : ∀ (found : Option Candidate) id,
        (∃ c, found = some c ∧ c.candidateId = id) ↔ found.map (·.candidateId) = some id := by
      intro found id
      rw [Option.map_eq_some_iff]
    intro id
    rw [h.active_iff, hnames, hnames, hactive]
  completed_ended := fun id hid => h.completed_ended id (hcompleted id hid)
  phases := fun row hrow => h.phases row (hcandidates row hrow)

theorem mem_assign {β : Type} {rows : List (Text × β)} {key : Text} {value : β} {row : Text × β}
    (h : row ∈ assign rows key value) : row ∈ rows ∨ row = (key, value) := by
  unfold assign at h
  split at h
  · obtain ⟨other, hother, heq⟩ := mem_map.mp h
    split at heq
    · exact .inr heq.symm
    · exact .inl (heq ▸ hother)
  · rcases mem_append.mp h with h | h
    · exact .inl h
    · exact .inr (mem_singleton.mp h)

theorem Coherent.finish (h : Coherent armed ended (some c) completed candidates)
    {record : Terminal} (hid : record.candidate.candidateId = c.candidateId) :
    Coherent armed (ended ++ [(record.candidate.candidateId, record.phase)]) none
      (completed ++ [record.candidate.candidateId])
      (assign candidates record.candidate.candidateId record) := by
  obtain ⟨harmed, hopen⟩ := h.active_armed
  rw [hid]
  have hkeys : (ended ++ [(c.candidateId, record.phase)]).map (·.1) =
      ended.map (·.1) ++ [c.candidateId] := map_append
  refine ⟨h.named, h.armed_nodup, ?_, ?_, ?_, ?_, ?_⟩
  · rw [hkeys]
    exact h.ended_nodup.append (nodup_cons.mpr ⟨not_mem_nil, nodup_nil⟩)
      fun id hmem hlast => hopen (mem_singleton.mp hlast ▸ hmem)
  · intro id hmem
    rw [hkeys] at hmem
    rcases mem_append.mp hmem with hmem | hlast
    · exact h.ended_armed id hmem
    · exact mem_singleton.mp hlast ▸ harmed
  · -- Only the active candidate was left, and it has ended now.
    intro id
    constructor
    · rintro ⟨hmem, hleft⟩
      rw [hkeys, mem_append, not_or] at hleft
      obtain ⟨other, hother, rfl⟩ := (h.active_iff id).mp ⟨hmem, hleft.1⟩
      cases hother
      exact absurd (mem_singleton.mpr rfl) hleft.2
    · rintro ⟨other, hother, -⟩
      cases hother
  · intro id hmem
    rw [hkeys]
    rcases mem_append.mp hmem with hmem | hlast
    · exact mem_append_left _ (h.completed_ended id hmem)
    · exact mem_append_right _ hlast
  · intro row hrow
    rcases mem_assign hrow with hrow | rfl
    · exact mem_append_left _ (h.phases row hrow)
    · simp

theorem Coherent.arm (h : Coherent armed ended none completed candidates)
    (hname : '|' ∈ c.candidateId) (hfresh : c.candidateId ∉ armed) :
    Coherent (armed ++ [c.candidateId]) ended (some c) completed candidates := by
  refine ⟨?_, ?_, h.ended_nodup, ?_, ?_, h.completed_ended, h.phases⟩
  · intro id hmem
    rcases mem_append.mp hmem with hmem | hlast
    · exact h.named id hmem
    · exact mem_singleton.mp hlast ▸ hname
  · exact h.armed_nodup.append (nodup_cons.mpr ⟨not_mem_nil, nodup_nil⟩)
      fun id hmem hlast => hfresh (mem_singleton.mp hlast ▸ hmem)
  · exact fun id hmem => mem_append_left _ (h.ended_armed id hmem)
  · intro id
    constructor
    · rintro ⟨hmem, hleft⟩
      rcases mem_append.mp hmem with hmem | hlast
      · -- No candidate was left open.
        obtain ⟨other, hother, -⟩ := (h.active_iff id).mp ⟨hmem, hleft⟩
        cases hother
      · exact ⟨c, rfl, (mem_singleton.mp hlast).symm⟩
    · rintro ⟨other, hother, rfl⟩
      cases hother
      exact ⟨mem_append_right _ (mem_singleton.mpr rfl),
        fun hmem => hfresh (h.ended_armed _ hmem)⟩

/-! ## The steps of a call -/

/-- The local variables of a call are in order with the lifecycles before it and its records. -/
def Working.Tracks (w : Working) (armed : List Text) (ended : List (Text × CandidatePhase)) :
    Prop :=
  Coherent (armed ++ armedIds w.records) (ended ++ endedIn w.records) w.active w.completed
    w.completedCandidates

variable {py : PyTools} {s : StateFile} {w : Working} {incoming : Text} {call : Call}

/-- What the state file knows is in order with the lifecycles. -/
def StateFile.Knows (s : StateFile) (armed : List Text) (ended : List (Text × CandidatePhase)) :
    Prop :=
  Coherent armed ended s.active s.load.completed s.completedCandidates

theorem StateFile.Knows.load (h : s.Knows armed ended) : s.load.Tracks armed ended := by
  unfold Working.Tracks
  rw [show s.load.records = [] from rfl]
  unfold armedIds endedIn
  rw [filterMap_nil, filterMap_nil, append_nil, append_nil]
  exact h

theorem Working.Tracks.finish (h : w.Tracks armed ended) (hactive : w.active = some c)
    {record : Terminal} (hid : record.candidate.candidateId = c.candidateId) :
    (w.finish record).Tracks armed ended := by
  unfold Working.Tracks at h ⊢
  rw [hactive] at h
  have harmed : armedIds (w.finish record).records = armedIds w.records := by
    rw [show (w.finish record).records = w.records ++ [.terminal record] from rfl,
      armedIds_append]
    exact append_nil _
  have hended : ended ++ endedIn (w.finish record).records =
      ended ++ endedIn w.records ++ [(record.candidate.candidateId, record.phase)] := by
    rw [show (w.finish record).records = w.records ++ [.terminal record] from rfl,
      endedIn_append, append_assoc]
    rfl
  rw [harmed, hended]
  exact h.finish hid

theorem Working.Tracks.start (h : w.Tracks armed ended) (hactive : w.active = none)
    (hname : '|' ∈ c.candidateId) (hfresh : c.candidateId ∉ armed ++ armedIds w.records) :
    (w.start c).Tracks armed ended := by
  unfold Working.Tracks at h ⊢
  rw [hactive] at h
  have harmed : armed ++ armedIds (w.start c).records =
      armed ++ armedIds w.records ++ [c.candidateId] := by
    rw [show (w.start c).records = w.records ++ [.armed c] from rfl, armedIds_append,
      append_assoc]
    rfl
  have hended : endedIn (w.start c).records = endedIn w.records := by
    rw [show (w.start c).records = w.records ++ [.armed c] from rfl, endedIn_append]
    exact append_nil _
  rw [harmed, hended]
  exact h.arm hname hfresh

/-! ## Until the look -/

theorem bar_mem_candidateId {intent : Members} (h : candidateId py intent ≠ []) :
    '|' ∈ candidateId py intent := by
  unfold candidateId at h ⊢
  by_cases hgiven : strOr py (member "intent_id" intent) [] ≠ [] ∧
      strOr py (member "event_id" intent) [] ≠ []
  · rw [if_pos hgiven]
    simp
  · exact absurd (if_neg hgiven) h

theorem candidateId_of_incoming (h : incomingId py call.intent call.now = .ok incoming)
    (hid : incoming ≠ []) : candidateId py call.intent = incoming := by
  unfold incomingId at h
  split at h
  · cases hissues : actionableStrategyContractIssues py call.intent call.now with
    | error failure =>
      rw [hissues] at h
      cases h
    | ok issues =>
      rw [hissues] at h
      have hfound : (if issues = [] then candidateId py call.intent else []) = incoming :=
        Except.ok.inj h
      split at hfound
      · exact hfound
      · exact absurd hfound.symm hid
  · exact absurd (Except.ok.inj h).symm hid

/-- What the call has worked out when it looks at the market. -/
inductive Prepared (py : PyTools) (s : StateFile) (incoming : Text) (call : Call) : Working → Prop
  | kept (hnone : s.active = none → incoming = [] ∨ incoming ∈ s.load.completed)
      (hsome : ∀ a, s.active = some a → incoming = [] ∨ incoming = a.candidateId) :
      Prepared py s incoming call s.load
  | armed (hactive : s.active = none) (hid : incoming ≠ [])
      (hnew : incoming ∉ s.load.completed) :
      Prepared py s incoming call (s.load.start (armedCandidate py call.intent call.now))
  | replaced {a : Candidate} {record : Terminal} (hactive : s.active = some a)
      (hrecord : record.candidate = a) (hphase : record.phase = .superseded)
      (hid : incoming ≠ []) (hother : incoming ≠ a.candidateId)
      (hnew : incoming ∉ s.load.completed) :
      Prepared py s incoming call
        ((s.load.finish record).start (armedCandidate py call.intent call.now))
  | dropped {a : Candidate} {record : Terminal} (hactive : s.active = some a)
      (hrecord : record.candidate = a) (hphase : record.phase = .superseded)
      (hid : incoming ≠ []) (hother : incoming ≠ a.candidateId)
      (hknown : incoming ∈ s.load.completed) :
      Prepared py s incoming call (s.load.finish record)

theorem prepare_spec (s : StateFile) (incoming : Text) (call : Call) :
    Prepared py s incoming call (s.prepare py incoming call) := by
  unfold StateFile.prepare
  cases hactive : s.active with
  | none =>
    have hquiet : s.load.supersede incoming call.now = s.load := by
      unfold Working.supersede
      rw [show s.load.active = none from hactive]
    rw [hquiet]
    unfold Working.arm
    split
    · rename_i harm
      exact .armed hactive harm.2.1 harm.2.2
    · rename_i harm
      refine .kept (fun _ => ?_) fun a ha => ?_
      · by_contra hneither
        rw [not_or] at hneither
        have hnone : s.load.active.isNone = true := by
          rw [show s.load.active = none from hactive]
          rfl
        exact harm ⟨hnone, hneither⟩
      · rw [hactive] at ha
        cases ha
  | some a =>
    have hload : s.load.active = some a := hactive
    unfold Working.supersede
    rw [hload]
    by_cases hother : incoming ≠ [] ∧ incoming ≠ a.candidateId
    · simp only [if_pos hother]
      unfold Working.arm
      split
      · rename_i harm
        refine .replaced hactive rfl rfl hother.1 hother.2 fun hknown => ?_
        exact harm.2.2 (mem_append_left _ hknown)
      · rename_i harm
        refine .dropped hactive rfl rfl hother.1 hother.2 ?_
        by_contra hnew
        refine harm ⟨rfl, hother.1, fun hmem => ?_⟩
        rcases mem_append.mp hmem with hmem | hlast
        · exact hnew hmem
        · exact hother.2 (mem_singleton.mp hlast)
    · simp only [if_neg hother]
      have hkept : s.load.arm py incoming call.intent call.now = s.load := by
        unfold Working.arm
        rw [hload]
        exact if_neg fun harm => by cases harm.1
      rw [hkept]
      refine .kept (fun hnone => ?_) fun other hsame => ?_
      · rw [hactive] at hnone
        cases hnone
      · rw [hactive] at hsame
        cases hsame
        by_contra hneither
        rw [not_or] at hneither
        exact hother hneither

/-- The intent is of a candidate that was never armed, or that the state still knows. -/
def StateFile.Remembers (s : StateFile) (armed : List Text) (incoming : Text) : Prop :=
  incoming ∈ armed → incoming ∈ s.load.completed ∨ s.active.map (·.candidateId) = some incoming

theorem Prepared.tracks (h : Prepared py s incoming call w) (hknows : s.Knows armed ended)
    (hincoming : incomingId py call.intent call.now = .ok incoming)
    (hremembers : s.Remembers armed incoming) : w.Tracks armed ended := by
  have hload := hknows.load
  have hfinish : ∀ {a : Candidate} {record : Terminal}, s.active = some a →
      record.candidate = a → (s.load.finish record).Tracks armed ended := by
    intro a record hactive hrecord
    exact hload.finish hactive (congrArg Candidate.candidateId hrecord)
  have hname : incoming ≠ [] → '|' ∈ (armedCandidate py call.intent call.now).candidateId :=
    fun hid => bar_mem_candidateId (candidateId_of_incoming hincoming hid ▸ hid)
  cases h with
  | kept hnone hsome => exact hload
  | armed hactive hid hnew =>
    refine hload.start hactive (hname hid) fun hmem => ?_
    rw [show armedIds s.load.records = [] from rfl, append_nil] at hmem
    rw [show (armedCandidate py call.intent call.now).candidateId = incoming from
      candidateId_of_incoming hincoming hid] at hmem
    rcases hremembers hmem with hknown | hsame
    · exact hnew hknown
    · rw [hactive] at hsame
      cases hsame
  | @replaced a record hactive hrecord hphase hid hother hnew =>
    refine (hfinish hactive hrecord).start rfl (hname hid) fun hmem => ?_
    rw [show armedIds (s.load.finish record).records = [] from rfl, append_nil] at hmem
    rw [show (armedCandidate py call.intent call.now).candidateId = incoming from
      candidateId_of_incoming hincoming hid] at hmem
    rcases hremembers hmem with hknown | hsame
    · exact hnew hknown
    · rw [hactive] at hsame
      exact hother (Option.some.inj hsame).symm
  | dropped hactive hrecord hphase hid hother hknown => exact hfinish hactive hrecord

/-! ## The look -/

variable {now : Instant} {market : MarketView}

theorem advanceActive_ne_superseded {reason : Option TerminalReason} {observation : Observation}
    (h : advanceActive py c market now = .ok (phase, reason, observation)) :
    phase ≠ .superseded := by
  unfold advanceActive at h
  obtain ⟨target, -, h⟩ := of_bind_ok h
  obtain ⟨invalidation, -, h⟩ := of_bind_ok h
  split at h
  · cases h
    decide
  split at h
  · cases h
    decide
  split at h
  · cases h
    decide
  obtain ⟨entryLimit, -, h⟩ := of_bind_ok h
  split at h
  · cases h
    decide
  dsimp only at h
  split at h
  · cases h
    decide
  · cases h
    decide

/-- What one look makes of the local variables. -/
inductive Looked (py : PyTools) (w : Working) (market : MarketView) (now : Instant) :
    Working × Answer → Prop
  | nothing {answer : Answer} (hactive : w.active = none) : Looked py w market now (w, answer)
  | ends {c : Candidate} {reason : Option TerminalReason} {observation : Observation}
      {record : Terminal} {answer : Answer} (hactive : w.active = some c)
      (hlook : advanceActive py c market now = .ok (record.phase, reason, observation))
      (hterminal : record.phase.terminal = true)
      (hsame : record.candidate.candidateId = c.candidateId) :
      Looked py w market now (w.finish record, answer)
  | waits {c : Candidate} {phase : CandidatePhase} {reason : Option TerminalReason}
      {observation : Observation} {answer : Answer} (hactive : w.active = some c)
      (hlook : advanceActive py c market now = .ok (phase, reason, observation))
      (hterminal : phase.terminal = false) :
      Looked py w market now ({ w with active := some (c.observed observation now) }, answer)

theorem look_spec {result : Working × Answer} (h : w.look py incoming market now = .ok result) :
    Looked py w market now result := by
  unfold Working.look at h
  split at h
  · rename_i hactive
    cases h
    exact .nothing hactive
  · rename_i c hactive
    obtain ⟨⟨phase, reason, observation⟩, hlook, h⟩ := of_bind_ok h
    dsimp only at h
    split at h
    · rename_i hterminal
      cases h
      exact .ends hactive hlook hterminal rfl
    · rename_i hwaits
      cases h
      exact .waits hactive hlook (Bool.eq_false_iff.mpr hwaits)

theorem Looked.tracks {result : Working × Answer} (h : Looked py w market now result)
    (htracks : w.Tracks armed ended) : result.1.Tracks armed ended := by
  cases h with
  | nothing hactive => exact htracks
  | ends hactive hlook hterminal hsame => exact htracks.finish hactive hsame
  | @waits c phase reason observation answer hactive hlook hterminal =>
    refine Coherent.mono htracks ?_ (fun id hid => hid) fun row hrow => hrow
    rw [hactive]
    rfl

/-! ## The state that is saved -/

theorem mem_of_mem_trimCompleted {rows : List (Text × Terminal)} {row : Text × Terminal}
    (h : row ∈ trimCompleted py rows) : row ∈ rows := by
  unfold trimCompleted at h
  have hsorted := mem_of_mem_rtake h
  rw [mem_insertionSort] at hsorted
  exact (mem_filter.mp hsorted).1

theorem mem_of_mem_savedIds (h : id ∈ (w.save py now).completedCandidateIds) :
    id ∈ w.completed := by
  unfold Working.save at h
  dsimp only at h
  have hsorted := mem_of_mem_rtake h
  rw [mem_insertionSort, mem_eraseDups] at hsorted
  exact (mem_filter.mp hsorted).1

theorem Working.Tracks.save (h : w.Tracks armed ended) (now : Instant) :
    (w.save py now).Knows (armed ++ armedIds w.records) (ended ++ endedIn w.records) := by
  have hkept : ∀ row ∈ (w.save py now).completedCandidates, row ∈ w.completedCandidates := by
    intro row hrow
    unfold Working.save at hrow
    dsimp only at hrow
    rw [mem_insertionSort] at hrow
    exact mem_of_mem_trimCompleted hrow
  refine ⟨h.named, h.armed_nodup, h.ended_nodup, h.ended_armed, h.active_iff, ?_, ?_⟩
  · intro id hid
    rcases mem_append.mp hid with hid | hid
    · obtain ⟨row, hrow, rfl⟩ := mem_map.mp hid
      exact mem_map.mpr ⟨_, h.phases row (hkept row hrow), rfl⟩
    · exact h.completed_ended id (mem_of_mem_savedIds hid)
  · exact fun row hrow => h.phases row (hkept row hrow)

/-! ## The call -/

/-- What a call decides, where it comes to a state. -/
inductive Advanced (py : PyTools) (s : StateFile) (call : Call) :
    List AuditRecord × Except PyError (StateFile × Answer) → Prop
  | unread {failure : PyError} : Advanced py s call ([], .error failure)
  | raised {incoming : Text} {w : Working} {failure : PyError}
      (hincoming : incomingId py call.intent call.now = .ok incoming)
      (hprepared : Prepared py s incoming call w) : Advanced py s call (w.records, .error failure)
  | decided {incoming : Text} {w final : Working} {answer : Answer}
      (hincoming : incomingId py call.intent call.now = .ok incoming)
      (hprepared : Prepared py s incoming call w)
      (hlooked : Looked py w call.market call.now (final, answer)) :
      Advanced py s call (final.records, .ok (final.save py call.now, answer))

theorem advance_spec (py : PyTools) (s : StateFile) (call : Call) :
    Advanced py s call (advanceTradeCandidate py s call) := by
  unfold advanceTradeCandidate
  cases hincoming : incomingId py call.intent call.now with
  | error failure => exact .unread
  | ok incoming =>
    cases hlook : (s.prepare py incoming call).look py incoming call.market call.now with
    | error failure =>
      simp only [hlook]
      exact .raised hincoming (prepare_spec s incoming call)
    | ok result =>
      simp only [hlook]
      exact .decided hincoming (prepare_spec s incoming call) (look_spec hlook)

end SpxSpark.TradeCandidate
