import SpxSpark.Lib.Recent
import SpxSpark.MarketFeatures.VirtualExitRun

/-!
# VirtualSignals — one episode and one decision for a signal

The journal tells which signals were decided for good, and which opened an episode. The four
structures of the state file are read off it: the consumed signals are the newest of the decided
ones, no waiting intent is among them, a terminal row belongs to one of them, and an episode is
active just when the last one that was opened has not ended.
-/

namespace SpxSpark.MarketFeatures

open Lib List

/-! ## What the journal tells -/

/-- The signals that were decided for good, in their order. -/
def decidedIn (journal : List StrategyEvent) : List String :=
  journal.filterMap fun event =>
    match event with
    | .entryDecision decision => if decision.terminal then decision.sourceSignalId else none
    | _ => none

/-- The signals that opened an episode, in their order. -/
def openedIn (journal : List StrategyEvent) : List String :=
  journal.filterMap fun event =>
    match event with
    | .opened e => some e.sourceSignalId
    | _ => none

/-- Whether an episode is open after a line; there is no answer where the line does not fit. -/
def liveStep (live : Bool) : StrategyEvent → Option Bool
  | .opened _ => if live then none else some true
  | .superseded _ | .censored _ | .closed _ => if live then some false else none
  | .entryDecision _ | .degraded _ | .recovered _ => some live

def journalOf (log : List (StrategyTick × List StrategyEvent)) : List StrategyEvent :=
  log.flatMap (·.2)

@[simp] theorem decidedIn_append (xs ys : List StrategyEvent) :
    decidedIn (xs ++ ys) = decidedIn xs ++ decidedIn ys := filterMap_append

@[simp] theorem openedIn_append (xs ys : List StrategyEvent) :
    openedIn (xs ++ ys) = openedIn xs ++ openedIn ys := filterMap_append

/-- What the journal has decided so far in a tick. -/
def settled (past : List StrategyEvent) (w : Working) : List String :=
  decidedIn (past ++ w.journal)

/-- An id that is there, without blanks around it. -/
structure Plain (id : String) : Prop where
  present : id ≠ ""
  stripped : strip id = id

/-- An intent that may wait for its entry. -/
structure Waits (p : TradeIntent) : Prop where
  status : p.status = "trade_ready"
  plain : Plain p.intentId
  contract : p.contractId ≠ ""

/-- The local variables agree with the journal. -/
structure Keeps (past : List StrategyEvent) (w : Working) : Prop where
  memory : w.consumed.map (·.id) = (settled past w).rtake maxConsumedSignals
  once : (settled past w).Nodup
  plain : ∀ id ∈ settled past w, Plain id
  rows : ∀ row ∈ w.decisions, row.2.terminal = true → row.1 ∈ settled past w
  waits : ∀ p, w.pending = some p → Waits p
  undecided : ∀ p, w.pending = some p → p.intentId ∉ settled past w
  vacant : ∀ p, w.pending = some p → w.active = none
  opened : openedIn (past ++ w.journal) ⊆ settled past w
  openedOnce : (openedIn (past ++ w.journal)).Nodup
  live : (past ++ w.journal).foldlM liveStep false = some w.active.isSome

variable {past : List StrategyEvent} {w w' w'' : Working} {id : String} {d : EntryDecision}
  {now : Instant}

/-! ## The memory of consumed signals -/

/-- What was decided is in the memory, or it was decided before the newest 200. -/
theorem Keeps.mem_consumed (h : Keeps past w) :
    id ∈ w.consumed.map (·.id) ↔ id ∈ (settled past w).rtake maxConsumedSignals := by
  rw [h.memory]

theorem markSignalConsumed_ids {consumed : List Consumption} {ids : List String}
    (hmemory : consumed.map (·.id) = ids.rtake maxConsumedSignals) (hplain : Plain id)
    (hnew : id ∉ ids) :
    (markSignalConsumed consumed id now).map (·.id) = (ids ++ [id]).rtake maxConsumedSignals := by
  have hunknown : id ∉ consumed.map (·.id) := by
    rw [hmemory]
    exact fun h => hnew (mem_of_mem_rtake h)
  have hlength : (consumed ++ [(⟨id, now⟩ : Consumption)]).length =
      (ids.rtake maxConsumedSignals ++ [id]).length := by
    rw [← hmemory, length_append, length_append, length_map]
    rfl
  unfold markSignalConsumed
  rw [hplain.stripped, if_neg (not_or.mpr ⟨hplain.present, hunknown⟩), ← rtake_push, ← hlength]
  dsimp only
  split
  · rw [map_tail, map_append, hmemory]
    rfl
  · rw [map_append, hmemory]
    rfl

theorem loadConsumedSignals_of_plain {stored : List Consumption}
    (hplain : ∀ id ∈ stored.map (·.id), Plain id) (hdistinct : (stored.map (·.id)).Nodup)
    (hroom : stored.length ≤ maxConsumedSignals) : loadConsumedSignals stored = stored := by
  have hfold : ∀ seen : List Consumption, ((seen ++ stored).map (·.id)).Nodup →
      stored.foldl (fun seen item =>
        if strip item.id = "" ∨ strip item.id ∈ seen.map (·.id) then seen
        else seen ++ [⟨strip item.id, item.consumedAt⟩]) seen = seen ++ stored := by
    clear hdistinct hroom
    induction stored with
    | nil =>
      intro seen _
      rw [append_nil]
      rfl
    | cons item rest ih =>
      intro seen hnodup
      have hitem : Plain item.id := hplain _ (mem_cons_self)
      have hfresh : item.id ∉ seen.map (·.id) := by
        rw [map_append, map_cons] at hnodup
        intro hseen
        exact (nodup_append.mp hnodup).2.2 _ hseen _ mem_cons_self rfl
      rw [foldl_cons, hitem.stripped, if_neg (not_or.mpr ⟨hitem.present, hfresh⟩),
        ih (fun id hid => hplain id (mem_cons_of_mem _ hid)), append_assoc]
      · rfl
      · rw [append_assoc]
        exact hnodup
  unfold loadConsumedSignals
  rw [hfold [] (by rwa [nil_append]), nil_append, rtake_eq_self hroom]

/-! ## Recording a decision -/

theorem mem_setRow {rows : List (String × EntryRow)} {key : String} {row : EntryRow}
    {r : String × EntryRow} (h : r ∈ setRow rows key row) : r ∈ rows ∨ r = (key, row) := by
  unfold setRow at h
  split at h
  · obtain ⟨old, hold, rfl⟩ := mem_map.mp h
    split
    · exact .inr rfl
    · exact .inl hold
  · rcases mem_append.mp h with h | h
    · exact .inl h
    · exact .inr (mem_singleton.mp h)

/-- A decision on an open signal is in the journal if it is terminal, and its row says the same. -/
structure Recorded (rows : List (String × EntryRow)) (d : EntryDecision) (id : String)
    (recorded : List StrategyEvent × List (String × EntryRow)) : Prop where
  decided : decidedIn recorded.1 = if d.terminal then [id] else []
  opened : openedIn recorded.1 = []
  live : ∀ live, recorded.1.foldlM liveStep live = some live
  rows : ∀ row ∈ recorded.2, row ∈ rows ∨ row.1 = id ∧ row.2.terminal = d.terminal

theorem recordEntryDecision_recorded {rows : List (String × EntryRow)}
    (hsource : d.sourceSignalId = some id) (hpresent : id ≠ "")
    (hopen : ∀ row, rows.lookup id = some row → row.terminal = false) :
    Recorded rows d id (recordEntryDecision rows d) := by
  have hprior : (rows.lookup id).any (·.terminal) = false := by
    cases hrow : rows.lookup id with
    | none => rfl
    | some row => exact hopen row hrow
  unfold recordEntryDecision
  rw [hsource, Option.getD_some]
  dsimp only
  rw [if_neg (by simp [hpresent, hprior])]
  -- Which reasons are written down plays no part.
  generalize (if d.terminal ∧ "signal_expired" ∈ normalizeBlockReasons d.blockReasons then
      normalizeBlockReasons (((rows.lookup id).map (·.lastBlockReasons)).getD [] ++
        normalizeBlockReasons d.blockReasons)
    else normalizeBlockReasons d.blockReasons) = reasons
  refine ⟨?_, ?_, ?_, fun row hrow => ?_⟩
  · split
    · -- A repeated decision has the flag of its row, which is not terminal.
      rename_i hrepeated
      cases hrow : rows.lookup id with
      | none =>
        rw [hrow] at hrepeated
        cases hrepeated
      | some row =>
        rw [hrow, Option.any_some, decide_eq_true_iff] at hrepeated
        rw [← hrepeated.2.1, hopen row hrow]
        rfl
    · show decidedIn [_] = _
      cases hterminal : d.terminal with
      | false => simp [decidedIn]
      | true => simp [decidedIn]
  · split <;> rfl
  · intro live
    split <;> rfl
  · rcases mem_setRow hrow with hold | rfl
    · exact .inl hold
    · exact .inr ⟨rfl, rfl⟩

theorem Keeps.row_open (h : Keeps past w) (hnew : id ∉ settled past w) :
    ∀ row, w.decisions.lookup id = some row → row.terminal = false := by
  intro row hrow
  obtain ⟨before, after, hrows, -⟩ := lookup_eq_some_iff.mp hrow
  cases hterminal : row.terminal with
  | false => rfl
  | true =>
    refine absurd (h.rows (id, row) ?_ hterminal) hnew
    rw [hrows]
    simp

theorem settled_record (h : Keeps past w) (hsource : d.sourceSignalId = some id)
    (hpresent : id ≠ "") (hnew : id ∉ settled past w) :
    settled past (w.record d) = settled past w ++ if d.terminal then [id] else [] := by
  have hrecorded := recordEntryDecision_recorded hsource hpresent (h.row_open hnew)
  show decidedIn (past ++ (w.journal ++ _)) = _
  rw [← append_assoc, decidedIn_append, hrecorded.decided]
  rfl

theorem openedIn_record (h : Keeps past w) (hsource : d.sourceSignalId = some id)
    (hpresent : id ≠ "") (hnew : id ∉ settled past w) :
    openedIn (past ++ (w.record d).journal) = openedIn (past ++ w.journal) := by
  have hrecorded := recordEntryDecision_recorded hsource hpresent (h.row_open hnew)
  show openedIn (past ++ (w.journal ++ _)) = _
  rw [← append_assoc, openedIn_append, hrecorded.opened, append_nil]

theorem live_record (h : Keeps past w) (hsource : d.sourceSignalId = some id)
    (hpresent : id ≠ "") (hnew : id ∉ settled past w) :
    (past ++ (w.record d).journal).foldlM liveStep false = some w.active.isSome := by
  have hrecorded := recordEntryDecision_recorded hsource hpresent (h.row_open hnew)
  show (past ++ (w.journal ++ _)).foldlM liveStep false = _
  rw [← append_assoc, foldlM_append, h.live]
  exact hrecorded.live _

/-- **A decision that is not final leaves everything as it was.** -/
theorem Keeps.observe (h : Keeps past w) (hsource : d.sourceSignalId = some id)
    (hpresent : id ≠ "") (hnew : id ∉ settled past w) (hopen : d.terminal = false) :
    Keeps past (w.record d) := by
  have hsettled : settled past (w.record d) = settled past w := by
    rw [settled_record h hsource hpresent hnew, hopen]
    exact append_nil _
  have hrecorded := recordEntryDecision_recorded hsource hpresent (h.row_open hnew)
  refine ⟨?_, ?_, ?_, fun row hrow hterminal => ?_, h.waits, ?_, h.vacant, ?_, ?_, ?_⟩
  · rw [hsettled]
    exact h.memory
  · rw [hsettled]
    exact h.once
  · rw [hsettled]
    exact h.plain
  · rw [hsettled]
    rcases hrecorded.rows row hrow with hold | ⟨-, hflag⟩
    · exact h.rows row hold hterminal
    · rw [hflag, hopen] at hterminal
      cases hterminal
  · rw [hsettled]
    exact h.undecided
  · rw [openedIn_record h hsource hpresent hnew, hsettled]
    exact h.opened
  · rw [openedIn_record h hsource hpresent hnew]
    exact h.openedOnce
  · exact live_record h hsource hpresent hnew

theorem Keeps.wait (h : Keeps past w) (hidle : w.active = none) {p : TradeIntent} (hwaits : Waits p)
    (hnew : p.intentId ∉ settled past w) : Keeps past { w with pending := some p } where
  memory := h.memory
  once := h.once
  plain := h.plain
  rows := h.rows
  waits q hq := by
    rw [← Option.some.inj hq]
    exact hwaits
  undecided q hq := by
    rw [← Option.some.inj hq]
    exact hnew
  vacant _ _ := hidle
  opened := h.opened
  openedOnce := h.openedOnce
  live := h.live

/-- The working state after a final decision on the signal `id`. -/
def Working.decide (w : Working) (d : EntryDecision) (id : String) (now : Instant) : Working :=
  { (w.record d).consume id now with pending := none }

section Fields

variable (w d id now)

@[simp] theorem Working.decide_journal : (w.decide d id now).journal = (w.record d).journal := by
  simp only [Working.decide, Working.consume]

@[simp] theorem Working.decide_active : (w.decide d id now).active = w.active := by
  simp only [Working.decide, Working.consume, Working.record]

@[simp] theorem Working.decide_pending : (w.decide d id now).pending = none := by
  simp only [Working.decide]

@[simp] theorem Working.decide_consumed :
    (w.decide d id now).consumed = markSignalConsumed w.consumed id now := by
  simp only [Working.decide, Working.consume, Working.record]

@[simp] theorem Working.decide_decisions :
    (w.decide d id now).decisions = (recordEntryDecision w.decisions d).2 := by
  simp only [Working.decide, Working.consume, Working.record]

end Fields

/-- **A final decision uses its signal up.** -/
theorem Keeps.decide (now : Instant) (h : Keeps past w) (hsource : d.sourceSignalId = some id)
    (hplain : Plain id)
    (hnew : id ∉ settled past w) (hterminal : d.terminal = true) :
    Keeps past (w.decide d id now) ∧ settled past (w.decide d id now) = settled past w ++ [id] := by
  have hsettled : settled past (w.decide d id now) = settled past w ++ [id] := by
    rw [settled, Working.decide_journal, ← settled, settled_record h hsource hplain.present hnew,
      if_pos hterminal]
  have hrecorded := recordEntryDecision_recorded hsource hplain.present (h.row_open hnew)
  have hleft : ∀ p, (w.decide d id now).pending ≠ some p := by
    intro p hp
    rw [Working.decide_pending] at hp
    cases hp
  refine ⟨⟨?_, ?_, ?_, fun row hrow hfinal => ?_, fun p hp => absurd hp (hleft p),
    fun p hp => absurd hp (hleft p), fun p hp => absurd hp (hleft p), ?_, ?_, ?_⟩, hsettled⟩
  · rw [hsettled, Working.decide_consumed]
    exact markSignalConsumed_ids h.memory hplain hnew
  · rw [hsettled]
    exact nodup_append.mpr ⟨h.once, nodup_singleton _, by
      intro a ha b hb hab
      rw [hab, mem_singleton.mp hb] at ha
      exact hnew ha⟩
  · rw [hsettled]
    intro a ha
    rcases mem_append.mp ha with ha | ha
    · exact h.plain a ha
    · rw [mem_singleton.mp ha]
      exact hplain
  · rw [hsettled]
    rw [Working.decide_decisions] at hrow
    rcases hrecorded.rows row hrow with hold | ⟨hkey, -⟩
    · exact mem_append_left _ (h.rows row hold hfinal)
    · rw [hkey]
      simp
  · rw [hsettled, Working.decide_journal, openedIn_record h hsource hplain.present hnew]
    exact subset_append_of_subset_left _ h.opened
  · rw [Working.decide_journal, openedIn_record h hsource hplain.present hnew]
    exact h.openedOnce
  · rw [Working.decide_journal, Working.decide_active]
    exact live_record h hsource hplain.present hnew

/-- The working state after the episode `e` was opened. -/
def Working.enter (w : Working) (e : Episode) : Working :=
  { w with active := some e, pending := none }.write (.opened e)

section Fields

variable (w) (e : Episode)

@[simp] theorem Working.enter_journal : (w.enter e).journal = w.journal ++ [.opened e] := by
  simp only [Working.enter, Working.write]

@[simp] theorem Working.enter_active : (w.enter e).active = some e := by
  simp only [Working.enter, Working.write]

@[simp] theorem Working.enter_pending : (w.enter e).pending = none := by
  simp only [Working.enter, Working.write]

@[simp] theorem Working.enter_consumed : (w.enter e).consumed = w.consumed := by
  simp only [Working.enter, Working.write]

@[simp] theorem Working.enter_decisions : (w.enter e).decisions = w.decisions := by
  simp only [Working.enter, Working.write]

theorem settled_enter (past : List StrategyEvent) : settled past (w.enter e) = settled past w := by
  rw [settled, Working.enter_journal, ← append_assoc, decidedIn_append]
  exact append_nil _

end Fields

theorem Keeps.enter (h : Keeps past w) {e : Episode} (hidle : w.active = none)
    (hsettled : e.sourceSignalId ∈ settled past w)
    (hnew : e.sourceSignalId ∉ openedIn (past ++ w.journal)) : Keeps past (w.enter e) := by
  have hopened : openedIn (past ++ (w.enter e).journal) =
      openedIn (past ++ w.journal) ++ [e.sourceSignalId] := by
    rw [Working.enter_journal, ← append_assoc, openedIn_append]
    rfl
  have hleft : ∀ p, (w.enter e).pending ≠ some p := by
    intro p hp
    rw [Working.enter_pending] at hp
    cases hp
  refine ⟨?_, ?_, ?_, ?_, fun p hp => absurd hp (hleft p), fun p hp => absurd hp (hleft p),
    fun p hp => absurd hp (hleft p), ?_, ?_, ?_⟩
  · rw [settled_enter, Working.enter_consumed]
    exact h.memory
  · rw [settled_enter]
    exact h.once
  · rw [settled_enter]
    exact h.plain
  · rw [settled_enter, Working.enter_decisions]
    exact h.rows
  · rw [settled_enter, hopened]
    intro id hid
    rcases mem_append.mp hid with hid | hid
    · exact h.opened hid
    · rw [mem_singleton.mp hid]
      exact hsettled
  · rw [hopened]
    refine nodup_append.mpr ⟨h.openedOnce, nodup_singleton _, fun a ha b hb hab => ?_⟩
    rw [hab, mem_singleton.mp hb] at ha
    exact hnew ha
  · rw [Working.enter_journal, Working.enter_active, ← append_assoc, foldlM_append,
      h.live, hidle]
    rfl

/-! ## The entry half of a tick -/

/-- A stage of a tick keeps the agreement, and loses no waiting intent that was not decided. -/
structure Advances (past : List StrategyEvent) (w w' : Working) : Prop where
  keeps : Keeps past w'
  grows : settled past w ⊆ settled past w'
  tracks : ∀ p, w.pending = some p → w'.pending = some p ∨ p.intentId ∈ settled past w'

theorem Advances.refl (h : Keeps past w) : Advances past w w :=
  ⟨h, List.Subset.refl _, fun _ hp => .inl hp⟩

theorem Advances.trans (h : Advances past w w') (h' : Advances past w' w'') :
    Advances past w w'' where
  keeps := h'.keeps
  grows := List.Subset.trans h.grows h'.grows
  tracks p hp := by
    rcases h.tracks p hp with hp | hp
    · exact h'.tracks p hp
    · exact .inr (h'.grows hp)

theorem Advances.decide_waiter (now : Instant) (h : Keeps past w) {p : TradeIntent}
    (hp : w.pending = some p)
    (hsource : d.sourceSignalId = nonEmpty p.intentId) (hterminal : d.terminal = true) :
    Advances past w (w.decide d p.intentId now) ∧
      settled past (w.decide d p.intentId now) = settled past w ++ [p.intentId] := by
  have hplain := (h.waits p hp).plain
  have hid : d.sourceSignalId = some p.intentId := by
    rw [hsource, nonEmpty, if_neg hplain.present]
  obtain ⟨hkeeps, hsettled⟩ := h.decide now hid hplain (h.undecided p hp) hterminal
  refine ⟨⟨hkeeps, ?_, fun q hq => .inr ?_⟩, hsettled⟩
  · rw [hsettled]
    simp
  · rw [hsettled, ← Option.some.inj (hp.symm.trans hq)]
    simp

variable {t : StrategyTick}

theorem censorWaiter_advances (h : Keeps past w) : Advances past w (censorWaiter w t) := by
  unfold censorWaiter
  split
  · rename_i p _ hp
    split
    · exact (Advances.decide_waiter _ h hp rfl rfl).1
    · exact .refl h
  · exact .refl h

theorem supersedeWaiter_advances (now : Instant) (h : Keeps past w) (current : Option TradeIntent) :
    Advances past w (supersedeWaiter w current now) ∧
      ∃ extra, extra.length ≤ 1 ∧
        settled past (supersedeWaiter w current now) = settled past w ++ extra := by
  unfold supersedeWaiter
  split
  · rename_i p current hp
    split
    · obtain ⟨hadvances, hsettled⟩ := Advances.decide_waiter (d := supersededDecision p current now)
        now h hp rfl rfl
      exact ⟨hadvances, _, le_rfl, hsettled⟩
    · exact ⟨.refl h, [], Nat.zero_le _, (append_nil _).symm⟩
  · exact ⟨.refl h, [], Nat.zero_le _, (append_nil _).symm⟩

section Settling

variable {candidate : TradeIntent} {answer : Option Episode × EntryDecision}

theorem settleEntry_opened {e : Episode} (hopened : answer.1 = some e)
    (hid : e.sourceSignalId = id) :
    settleEntry w candidate now answer = (w.decide answer.2 id now).enter e := by
  unfold settleEntry
  rw [hopened]
  simp [Working.enter, Working.consume, Working.record, hid]

theorem settleEntry_refused (hopened : answer.1 = none) (hterminal : answer.2.terminal = true)
    (hsource : answer.2.sourceSignalId = some id)
    (hpending : answer.2.sourceKind = .gthDipReclaimCall → w.pending = none) :
    settleEntry w candidate now answer = w.decide answer.2 id now := by
  unfold settleEntry
  rw [hopened]
  dsimp only
  rw [if_pos hterminal, hsource, Option.getD_some]
  cases hkind : answer.2.sourceKind with
  | tradeIntent => rw [if_pos rfl, if_pos hterminal, Working.decide]
  | gthDipReclaimCall =>
    rw [if_neg (by simp)]
    simp only [Working.decide, Working.consume, Working.record, hpending hkind]

theorem settleEntry_waiting (hopened : answer.1 = none) (hopen : answer.2.terminal = false)
    (hkind : answer.2.sourceKind = .tradeIntent) :
    settleEntry w candidate now answer = { w.record answer.2 with pending := some candidate } := by
  unfold settleEntry
  rw [hopened]
  dsimp only
  simp [hopen, if_pos hkind]

theorem settleEntry_observing (hopened : answer.1 = none) (hopen : answer.2.terminal = false)
    (hkind : answer.2.sourceKind = .gthDipReclaimCall) :
    settleEntry w candidate now answer = w.record answer.2 := by
  unfold settleEntry
  rw [hopened]
  simp [hopen, hkind]

end Settling

theorem settleEntry_advances (h : Keeps past w) (hidle : w.active = none) {kind : SourceKind}
    {candidate : TradeIntent} {answer : Option Episode × EntryDecision}
    (hanswer : Evaluates id kind answer) (hplain : Plain id) (hnew : id ∉ settled past w)
    (hintent : kind = .tradeIntent → Waits candidate ∧ candidate.intentId = id ∧
      ∀ p, w.pending = some p → p = candidate)
    (hsignal : kind = .gthDipReclaimCall → w.pending = none) :
    Advances past w (settleEntry w candidate now answer) := by
  have hsource : answer.2.sourceSignalId = some id := by
    rw [hanswer.source, nonEmpty, if_neg hplain.present]
  -- What waits before is the candidate itself, or nothing.
  have hwaiter : ∀ p, w.pending = some p → p.intentId = id := by
    intro p hp
    cases kind with
    | tradeIntent =>
      obtain ⟨-, hid, hsame⟩ := hintent rfl
      rw [hsame p hp, hid]
    | gthDipReclaimCall =>
      rw [hsignal rfl] at hp
      cases hp
  have hfinal : answer.2.terminal = true →
      Advances past w (w.decide answer.2 id now) ∧
        settled past (w.decide answer.2 id now) = settled past w ++ [id] := by
    intro hterminal
    obtain ⟨hkeeps, hsettled⟩ := h.decide now hsource hplain hnew hterminal
    refine ⟨⟨hkeeps, ?_, fun p hp => .inr ?_⟩, hsettled⟩
    · rw [hsettled]
      simp
    · rw [hsettled, hwaiter p hp]
      simp
  cases hopened : answer.1 with
  | some e =>
    obtain ⟨hterminal, hfresh⟩ := hanswer.opened e hopened
    obtain ⟨hdecided, hsettled⟩ := hfinal hterminal
    rw [settleEntry_opened hopened hfresh.source]
    refine hdecided.trans ⟨hdecided.keeps.enter ?_ ?_ ?_, ?_, fun p hp => ?_⟩
    · rw [Working.decide_active]
      exact hidle
    · rw [hfresh.source, hsettled]
      simp
    · rw [hfresh.source, Working.decide_journal, openedIn_record h hsource hplain.present hnew]
      exact fun hmem => hnew (h.opened hmem)
    · rw [settled_enter]
      exact List.Subset.refl _
    · rw [Working.decide_pending] at hp
      cases hp
  | none =>
    cases hterminal : answer.2.terminal with
    | true =>
      rw [settleEntry_refused hopened hterminal hsource]
      · exact (hfinal hterminal).1
      · intro hkind
        exact hsignal (by rw [← hanswer.kind, hkind])
    | false =>
      have hobserved := h.observe hsource hplain.present hnew hterminal
      have hsettled : settled past (w.record answer.2) = settled past w := by
        rw [settled_record h hsource hplain.present hnew, hterminal]
        exact append_nil _
      have hgrows : settled past w ⊆ settled past (w.record answer.2) := by
        rw [hsettled]
        exact List.Subset.refl _
      have hkind := hanswer.kind
      cases kind with
      | tradeIntent =>
        obtain ⟨hwaits, hid, hsame⟩ := hintent rfl
        rw [settleEntry_waiting hopened hterminal hkind]
        refine ⟨hobserved.wait hidle hwaits ?_, hgrows, fun p hp => .inl ?_⟩
        · rw [hsettled, hid]
          exact hnew
        · rw [hsame p hp]
      | gthDipReclaimCall =>
        rw [settleEntry_observing hopened hterminal hkind]
        exact ⟨hobserved, hgrows, fun p hp => .inl hp⟩

end SpxSpark.MarketFeatures
