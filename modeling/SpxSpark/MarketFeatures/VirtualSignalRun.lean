import SpxSpark.MarketFeatures.VirtualSignals

/-!
# VirtualSignalRun — signals over the runs of the strategy

A signal that is presented again after 200 others were used up is not known any more. In the runs
where this does not happen a signal is decided once, and opens at most one episode.
-/

namespace SpxSpark.MarketFeatures

open Lib List

variable (calendar : ExpiryCalendar)

variable {past : List StrategyEvent} {w : Working} {s : VirtualState} {t : StrategyTick}

def presented (t : StrategyTick) : List String := [t.tradeIntent.intentId, t.gthSignal.eventId]

/-- The tick presents ids without blanks around them, and none that was decided before the newest
199. One place of the memory is left to the waiting intent that the tick may supersede. -/
def Remembered (past : List StrategyEvent) (t : StrategyTick) : Prop :=
  ∀ id ∈ presented t, strip id = id ∧
    (id ∈ decidedIn past → id ∈ (decidedIn past).rtake (maxConsumedSignals - 1))

/-! ## The entry half of a tick -/

theorem newEpisodeEntry_cases {candidate : TradeIntent} {consumed : List Consumption}
    {answer : Option Episode × EntryDecision}
    (h : newEpisodeEntry calendar candidate t consumed = some answer) :
    (candidate.status = "trade_ready" ∧ candidate.intentId ≠ "" ∧
        candidate.intentId ∉ consumed.map (·.id) ∧ candidate.contractId ≠ "" ∧
        Evaluates candidate.intentId .tradeIntent answer) ∨
      (¬(candidate.status = "trade_ready" ∧ candidate.intentId ≠ "" ∧
          candidate.intentId ∉ consumed.map (·.id) ∧ candidate.contractId ≠ "") ∧
        t.gthSignal.eventId ≠ "" ∧ t.gthSignal.eventId ∉ consumed.map (·.id) ∧
        Evaluates t.gthSignal.eventId .gthDipReclaimCall answer) := by
  unfold newEpisodeEntry at h
  split at h
  · rename_i hready
    cases h
    exact .inl ⟨hready.1, hready.2.1, hready.2.2.1, hready.2.2.2, evaluates_tradeIntent⟩
  · rename_i hready
    split at h
    · rename_i hsignal
      cases h
      exact .inr ⟨hready, hsignal.2.2.1, hsignal.2.2.2, evaluates_gth calendar⟩
    · cases h

/-- **An entry decides only what is still open.** -/
theorem openEntry_advances (h : Keeps past w)
    (hremembered : ∀ id ∈ presented t, strip id = id ∧
      (id ∈ settled past w → id ∈ (settled past w).rtake (maxConsumedSignals - 1))) :
    Advances past w (openEntry calendar w t) := by
  unfold openEntry
  split
  · exact .refl h
  rename_i hentry
  have hidle : w.active = none := by
    cases hactive : w.active with
    | none => rfl
    | some e => exact absurd (.inl (by rw [hactive]; rfl)) hentry
  dsimp only
  generalize hcurrent : (if t.tradeIntent.ready then some t.tradeIntent else none) = current
  have hready : ∀ c, current = some c → c = t.tradeIntent := by
    intro c hc
    rw [← hcurrent] at hc
    split at hc
    · exact (Option.some.inj hc).symm
    · cases hc
  obtain ⟨hsuperseded, extra, hroom, hextra⟩ :=
    supersedeWaiter_advances t.now h current
  have hkeeps := hsuperseded.keeps
  have hidle' : (supersedeWaiter w current t.now).active = none :=
    (supersedeWaiter_active _ _ _).trans hidle
  -- A presented signal that is not in the memory was never decided.
  have hunknown : ∀ id ∈ presented t,
      id ∉ (supersedeWaiter w current t.now).consumed.map (·.id) →
      id ∉ settled past (supersedeWaiter w current t.now) := by
    intro id hid hforgotten hsettled
    rw [hkeeps.mem_consumed, hextra] at hforgotten
    rw [hextra] at hsettled
    refine hforgotten (mem_rtake_append (hremembered id hid).2 ?_ hsettled)
    have hlimit : maxConsumedSignals = 200 := rfl
    omega
  split
  · exact hsuperseded
  rename_i answer hanswer
  refine hsuperseded.trans ?_
  generalize hcandidate : (((supersedeWaiter w current t.now).pending.or current).getD
    t.tradeIntent) = candidate at hanswer
  -- The candidate waits already, or it was presented with the tick.
  have hfrom : (supersedeWaiter w current t.now).pending = some candidate ∨
      (supersedeWaiter w current t.now).pending = none ∧ candidate = t.tradeIntent := by
    cases hpending : (supersedeWaiter w current t.now).pending with
    | some p =>
      rw [hpending, Option.some_or, Option.getD_some] at hcandidate
      exact .inl (by rw [hcandidate])
    | none =>
      rw [hpending, Option.none_or] at hcandidate
      refine .inr ⟨rfl, ?_⟩
      cases hcase : current with
      | none => rw [← hcandidate, hcase, Option.getD_none]
      | some c => rw [← hcandidate, hcase, Option.getD_some, hready c hcase]
  rcases newEpisodeEntry_cases calendar hanswer with
    ⟨hstatus, hpresent, hforgotten, hcontract, hevaluates⟩ |
    ⟨hnot, hpresent, hforgotten, hevaluates⟩
  · rcases hfrom with hpending | ⟨hpending, rfl⟩
    · have hwaits := hkeeps.waits _ hpending
      refine settleEntry_advances hkeeps hidle' hevaluates hwaits.plain
        (hkeeps.undecided _ hpending) (fun _ => ⟨hwaits, rfl, fun p hp => ?_⟩) nofun
      exact Option.some.inj (hp.symm.trans hpending)
    · have hmem : t.tradeIntent.intentId ∈ presented t := mem_cons_self
      have hplain : Plain t.tradeIntent.intentId := ⟨hpresent, (hremembered _ hmem).1⟩
      refine settleEntry_advances hkeeps hidle' hevaluates hplain
        (hunknown _ hmem hforgotten)
        (fun _ => ⟨⟨hstatus, hplain, hcontract⟩, rfl, fun p hp => ?_⟩) nofun
      rw [hpending] at hp
      cases hp
  · have hmem : t.gthSignal.eventId ∈ presented t :=
      mem_cons_of_mem _ (mem_singleton.mpr rfl)
    refine settleEntry_advances hkeeps hidle' hevaluates ⟨hpresent, (hremembered _ hmem).1⟩
      (hunknown _ hmem hforgotten) nofun fun _ => ?_
    -- A waiting intent would have been evaluated before the signal.
    rcases hfrom with hpending | ⟨hpending, -⟩
    · have hwaits := hkeeps.waits _ hpending
      refine absurd ⟨hwaits.status, hwaits.plain.present, fun hconsumed => ?_, hwaits.contract⟩ hnot
      exact hkeeps.undecided _ hpending (mem_of_mem_rtake (hkeeps.mem_consumed.mp hconsumed))
    · exact hpending

/-! ## One tick -/

/-- The state file, seen as the local variables of a tick that has written nothing yet. -/
def VirtualState.working (s : VirtualState) : Working where
  active := s.active
  pending := s.pendingTradeIntent
  consumed := s.consumedSignals
  decisions := s.entryDecisions
  journal := []

/-- The state file agrees with the journal. -/
abbrev Agrees (past : List StrategyEvent) (s : VirtualState) : Prop := Keeps past s.working

theorem agrees_empty : Agrees [] {} where
  memory := rfl
  once := nodup_nil
  plain _ h := by cases h
  rows _ h := by cases h
  waits _ h := by cases h
  undecided _ h := by cases h
  vacant _ h := by cases h
  opened _ h := h
  openedOnce := nodup_nil
  live := rfl

theorem Keeps.consumed_length (h : Keeps past w) : w.consumed.length ≤ maxConsumedSignals := by
  rw [← length_map (·.id), h.memory]
  exact length_rtake_le _ _

theorem Agrees.load (h : Agrees past s) : Keeps past (loadWorking calendar s) := by
  have hload : loadConsumedSignals s.consumedSignals = s.consumedSignals := by
    have hmemory : s.consumedSignals.map (·.id) = _ := h.memory
    refine loadConsumedSignals_of_plain (fun id hid => ?_) ?_ h.consumed_length
    · rw [hmemory] at hid
      exact h.plain id (mem_of_mem_rtake hid)
    · rw [hmemory]
      exact (rtake_sublist _ _).nodup h.once
  refine ⟨?_, h.once, h.plain, h.rows, h.waits, h.undecided, fun p hp => ?_, h.opened,
    h.openedOnce, ?_⟩
  · simp only [loadWorking, hload]
    exact h.memory
  · show s.active.map _ = none
    rw [show s.active = none from h.vacant p hp, Option.map_none]
  · show _ = some (s.active.map _).isSome
    rw [Option.isSome_map]
    exact h.live

theorem mem_trimEntryDecisions {rows : List (String × EntryRow)} {row : String × EntryRow}
    (h : row ∈ trimEntryDecisions rows) : row ∈ rows :=
  (mem_insertionSort _).mp (mem_of_mem_rtake h)

theorem Keeps.save (h : Keeps past w) {tail : List StrategyEvent} {s' : VirtualState}
    (hconsumed : s'.consumedSignals = w.consumed.rtake maxConsumedSignals)
    (hrows : s'.entryDecisions = trimEntryDecisions w.decisions)
    (hpending : ∀ p, s'.pendingTradeIntent = some p → w.pending = some p ∧ s'.active = none)
    (hdecided : decidedIn tail = []) (hopened : openedIn tail = [])
    (hlive : tail.foldlM liveStep w.active.isSome = some s'.active.isSome) :
    Agrees (past ++ (w.journal ++ tail)) s' := by
  have hsettled : settled (past ++ (w.journal ++ tail)) s'.working = settled past w := by
    show decidedIn (past ++ (w.journal ++ tail) ++ []) = _
    rw [append_nil, ← append_assoc, decidedIn_append, hdecided, append_nil]
    rfl
  have hopenedIn : openedIn (past ++ (w.journal ++ tail) ++ []) = openedIn (past ++ w.journal) := by
    rw [append_nil, ← append_assoc, openedIn_append, hopened, append_nil]
  refine ⟨?_, ?_, ?_, ?_, fun p hp => h.waits p (hpending p hp).1, ?_,
    fun p hp => (hpending p hp).2, ?_, ?_, ?_⟩
  · rw [hsettled, ← h.memory]
    show s'.consumedSignals.map (·.id) = _
    rw [hconsumed, rtake_eq_self h.consumed_length]
  · rw [hsettled]
    exact h.once
  · rw [hsettled]
    exact h.plain
  · rw [hsettled]
    intro row hrow
    have hmem : row ∈ s'.entryDecisions := hrow
    rw [hrows] at hmem
    exact h.rows row (mem_trimEntryDecisions hmem)
  · rw [hsettled]
    exact fun p hp => h.undecided p (hpending p hp).1
  · rw [hsettled]
    show openedIn (past ++ (w.journal ++ tail) ++ []) ⊆ _
    rw [hopenedIn]
    exact h.opened
  · show (openedIn (past ++ (w.journal ++ tail) ++ [])).Nodup
    rw [hopenedIn]
    exact h.openedOnce
  · show (past ++ (w.journal ++ tail) ++ []).foldlM liveStep false = some s'.active.isSome
    rw [append_nil, ← append_assoc, foldlM_append, h.live]
    exact hlive

theorem outcomeJournal_live (e : Episode) (outcome : EpisodeOutcome) :
    decidedIn (outcomeJournal e outcome) = [] ∧ openedIn (outcomeJournal e outcome) = [] ∧
      (outcomeJournal e outcome).foldlM liveStep true =
        some (match outcome with
          | .held _ => true
          | .censored _ => false
          | .closed _ => false) := by
  cases outcome with
  | held e' =>
    unfold outcomeJournal
    dsimp only
    split
    · exact ⟨rfl, rfl, rfl⟩
    split <;> exact ⟨rfl, rfl, rfl⟩
  | censored record => exact ⟨rfl, rfl, rfl⟩
  | closed record =>
    unfold outcomeJournal
    dsimp only
    split <;> exact ⟨rfl, rfl, rfl⟩

theorem Keeps.finish (h : Keeps past w) :
    Agrees (past ++ (finishTick calendar w s t).1) (finishTick calendar w s t).2 ∧
      ∀ p, w.pending = some p → (finishTick calendar w s t).2.pendingTradeIntent = some p := by
  unfold finishTick
  cases hactive : w.active with
  | none =>
    refine ⟨?_, fun p hp => hp⟩
    have hsaved : Agrees (past ++ (w.journal ++ [])) (saveWorking w s) :=
      h.save (by simp only [saveWorking]) (by simp only [saveWorking])
        (fun p hp => ⟨hp, hactive⟩) rfl rfl (by rfl)
    rwa [append_nil] at hsaved
  | some e =>
    have hnone : ∀ p, w.pending ≠ some p := by
      intro p hp
      rw [h.vacant p hp] at hactive
      cases hactive
    refine ⟨?_, fun p hp => absurd hp (hnone p)⟩
    obtain ⟨hdecided, hopened, hlive⟩ :=
      outcomeJournal_live e (stepEpisode calendar e (t.of e))
    dsimp only
    cases hstep : stepEpisode calendar e (t.of e) with
    | held e' | censored record | closed record =>
      rw [hstep] at hdecided hopened hlive
      refine h.save (by simp only [saveWorking]) (by simp only [saveWorking])
        (fun p hp => ?_) hdecided hopened ?_
      · cases hp
      · rw [hactive]
        exact hlive

theorem finishTick_idle (hidle : w.active = none) :
    finishTick calendar w s t = (w.journal, saveWorking w s) := by
  unfold finishTick
  rw [hidle]

theorem finishTick_journal : ∃ tail, (finishTick calendar w s t).1 = w.journal ++ tail := by
  unfold finishTick
  split
  · exact ⟨[], (append_nil _).symm⟩
  · dsimp only
    split <;> exact ⟨_, rfl⟩

theorem censorWaiter_of_allowed (hallowed : t.newEntriesAllowed = true) : censorWaiter w t = w := by
  unfold censorWaiter
  split
  · rw [if_neg (by simp [hallowed])]
  · rfl

theorem openEntry_of_blocked (hblocked : t.newEntriesAllowed = false) :
    openEntry calendar w t = w := by
  unfold openEntry
  rw [if_pos (.inr hblocked)]

theorem replaceWithGthSpread_of_sound (hsound : ∀ e, w.active = some e → EpisodeSound e) :
    replaceWithGthSpread calendar w t = w := by
  unfold replaceWithGthSpread
  cases hactive : w.active with
  | none => rfl
  | some e =>
    dsimp only
    rw [(hsound e hactive).not_replaced, if_neg (by simp)]

/-- **One tick keeps the file in agreement with the journal, and loses no waiting intent.** -/
theorem process_agrees (h : Agrees past s) (hsound : ∀ e, s.active = some e → EpisodeSound e)
    (hremembered : Remembered past t) : Agrees (past ++ (processVirtualStrategy calendar s t).1)
        (processVirtualStrategy calendar s t).2 ∧
      ∀ p, s.pendingTradeIntent = some p →
        (processVirtualStrategy calendar s t).2.pendingTradeIntent = some p ∨
          p.intentId ∈ decidedIn (past ++ (processVirtualStrategy calendar s t).1) := by
  cases hon : t.policy.virtualStrategyEnabled with
  | false =>
    rw [process_disabled calendar hon, append_nil]
    exact ⟨h, fun p hp => .inl hp⟩
  | true =>
    have hloaded := h.load calendar
    have hentry : Advances past (loadWorking calendar s)
        (openEntry calendar (replaceWithGthSpread calendar
          (censorWaiter (loadWorking calendar s) t) t) t) := by
      have hsoundLoaded : ∀ e, (loadWorking calendar s).active = some e → EpisodeSound e := by
        intro e he
        obtain ⟨e₀, he₀, rfl⟩ := Option.map_eq_some_iff.mp he
        exact (hsound e₀ he₀).cap calendar
      rw [replaceWithGthSpread_of_sound calendar
        (by rw [censorWaiter_active]; exact hsoundLoaded)]
      cases hallowed : t.newEntriesAllowed with
      | false =>
        rw [openEntry_of_blocked calendar hallowed]
        exact censorWaiter_advances hloaded
      | true =>
        rw [censorWaiter_of_allowed hallowed]
        have hnothing : settled past (loadWorking calendar s) = decidedIn past := by
          show decidedIn (past ++ []) = _
          rw [append_nil]
        refine openEntry_advances calendar hloaded fun id hid => ?_
        rw [hnothing]
        exact hremembered id hid
    unfold processVirtualStrategy
    rw [if_neg (by rw [hon]; decide)]
    generalize openEntry calendar (replaceWithGthSpread calendar
      (censorWaiter (loadWorking calendar s) t) t) t = w at hentry ⊢
    obtain ⟨hagrees, hpending⟩ := hentry.keeps.finish calendar (s := s) (t := t)
    refine ⟨hagrees, fun p hp => ?_⟩
    rcases hentry.tracks p hp with hp | hp
    · exact .inl (hpending p hp)
    · obtain ⟨tail, htail⟩ := finishTick_journal calendar (w := w) (s := s) (t := t)
      refine .inr ?_
      rw [htail, ← append_assoc, decidedIn_append]
      exact mem_append_left _ hp

/-! ## Runs -/

/-- Every tick of the run presents only signals that are new or still remembered. -/
def AllRemembered (log : List (StrategyTick × List StrategyEvent)) : Prop :=
  ∀ past t events rest, log = past ++ (t, events) :: rest → Remembered (journalOf past) t

theorem journalOf_snoc (log : List (StrategyTick × List StrategyEvent)) (t : StrategyTick)
    (events : List StrategyEvent) : journalOf (log ++ [(t, events)]) = journalOf log ++ events := by
  rw [journalOf, flatMap_append, flatMap_singleton]
  rfl

variable {log rest : List (StrategyTick × List StrategyEvent)} {s' : VirtualState}

theorem run_agrees (h : Run (processVirtualStrategy calendar) anyStep {} log s)
    (hremembered : AllRemembered log) : Agrees (journalOf log) s := by
  have hboth : Agrees (journalOf log) s ∧ ∀ e, s.active = some e → EpisodeSound e := by
    refine h.invariant_met
      (I := fun log s => Agrees (journalOf log) s ∧ ∀ e, s.active = some e → EpisodeSound e)
      (P := fun past t _ => Remembered (journalOf past) t) ⟨agrees_empty, ?_⟩ ?_ hremembered
    · intro e he
      cases he
    · intro log s t ⟨hagrees, hsound⟩ hmet
      rw [journalOf_snoc]
      exact ⟨(process_agrees calendar hagrees hsound hmet).1,
        process_episodeSound calendar hsound⟩
  exact hboth.1

/-- **An intent that waits goes on waiting, undecided, until it is decided once.** -/
theorem run_waiter (hbefore : Run (processVirtualStrategy calendar) anyStep {} log s)
    (hafter : Run (processVirtualStrategy calendar) anyStep s rest s')
    (hremembered : AllRemembered (log ++ rest)) {p : TradeIntent}
    (hp : s.pendingTradeIntent = some p) :
    s'.pendingTradeIntent = some p ∨ p.intentId ∈ decidedIn (journalOf (log ++ rest)) := by
  have hprefix : ∀ {xs ys : List (StrategyTick × List StrategyEvent)},
      AllRemembered (xs ++ ys) → AllRemembered xs := by
    intro xs ys h past t events rest hxs
    refine h past t events (rest ++ ys) ?_
    rw [hxs, append_assoc, cons_append]
  induction hafter with
  | nil => exact .inl hp
  | @snoc rest s₁ t hafter _ ih =>
    have hmet : Remembered (journalOf (log ++ rest)) t := by
      refine hremembered (log ++ rest) t (processVirtualStrategy calendar s₁ t).1 [] ?_
      rw [append_assoc]
    have hearlier : AllRemembered (log ++ rest) := by
      have hextended :
          AllRemembered (log ++ rest ++ [(t, (processVirtualStrategy calendar s₁ t).1)]) := by
        rw [append_assoc]
        exact hremembered
      exact hprefix hextended
    have hrun := hbefore.trans hafter
    have hstep := process_agrees calendar (run_agrees calendar hrun hearlier)
      (run_episodeSound calendar (by intro e he; cases he) hrun) hmet
    rw [← append_assoc, journalOf_snoc]
    rcases ih hearlier with hwaiting | hdecided
    · exact hstep.2 p hwaiting
    · refine .inr ?_
      rw [decidedIn_append]
      exact mem_append_left _ hdecided

/-- What a run has done with its signals. -/
structure SignalsSettled (log : List (StrategyTick × List StrategyEvent)) (s : VirtualState) :
    Prop where
  /-- Each signal is decided once. -/
  decidedOnce : (decidedIn (journalOf log)).Nodup
  /-- Each signal opens at most one episode, and is decided when it does. -/
  openedOnce : (openedIn (journalOf log)).Nodup
  opened : openedIn (journalOf log) ⊆ decidedIn (journalOf log)
  /-- The consumed signals are the newest 200 of the decided ones. -/
  consumed : s.consumedSignals.map (·.id) =
    (decidedIn (journalOf log)).rtake maxConsumedSignals
  /-- Episodes open and end in turn, and one is active when the last has not ended. -/
  live : (journalOf log).foldlM liveStep false = some s.active.isSome
  /-- The intent that waits was not decided, and waits for no active episode to end. -/
  undecided : ∀ p, s.pendingTradeIntent = some p →
    p.intentId ∉ decidedIn (journalOf log) ∧ s.active = none
  /-- An intent that waited at any time waits still, or it was decided exactly once. -/
  waited : ∀ past rest s₁ p, log = past ++ rest →
    Run (processVirtualStrategy calendar) anyStep {} past s₁ →
    Run (processVirtualStrategy calendar) anyStep s₁ rest s → s₁.pendingTradeIntent = some p →
    s.pendingTradeIntent = some p ∧ (decidedIn (journalOf log)).count p.intentId = 0 ∨
      s.pendingTradeIntent ≠ some p ∧ (decidedIn (journalOf log)).count p.intentId = 1

/-- **One episode and one terminal decision for a signal.** -/
theorem one_decision_per_signal (h : Run (processVirtualStrategy calendar) anyStep {} log s)
    (hremembered : AllRemembered log) : SignalsSettled calendar log s := by
  have hagrees := run_agrees calendar h hremembered
  have hjournal : journalOf log ++ s.working.journal = journalOf log := append_nil _
  have hsettled : settled (journalOf log) s.working = decidedIn (journalOf log) := by
    rw [settled, hjournal]
  have hundecided : ∀ p, s.pendingTradeIntent = some p →
      p.intentId ∉ decidedIn (journalOf log) := by
    intro p hp
    rw [← hsettled]
    exact hagrees.undecided p hp
  have honce : (decidedIn (journalOf log)).Nodup := hsettled ▸ hagrees.once
  refine ⟨honce, ?_, ?_, ?_, ?_, fun p hp => ⟨hundecided p hp, hagrees.vacant p hp⟩, ?_⟩
  · exact hjournal ▸ hagrees.openedOnce
  · have hopened := hagrees.opened
    rwa [hsettled, hjournal] at hopened
  · rw [← hsettled]
    exact hagrees.memory
  · exact hjournal ▸ hagrees.live
  · rintro past rest s₁ p rfl hbefore hafter hp
    rcases run_waiter calendar hbefore hafter hremembered hp with hwaits | hdecided
    · exact .inl ⟨hwaits, count_eq_zero.mpr (hundecided p hwaits)⟩
    · refine .inr ⟨fun hwaits => hundecided p hwaits hdecided, ?_⟩
      exact count_eq_one_of_mem honce hdecided

instance (past : List StrategyEvent) (t : StrategyTick) : Decidable (Remembered past t) :=
  inferInstanceAs (Decidable (∀ id ∈ presented t, _))

/-- An intent waits for its quote, and gives way to another one, which opens an episode. -/
def supersedingTicks : List StrategyTick :=
  [{ tickAt 0 none true with
      market := { callAt none with actionSnapshot := fun _ _ => .error ["quote_missing"] } },
    { tickAt 1 (some 9) true with tradeIntent := readyIntent "other" }]

theorem one_decision_per_signal_superseding : SignalsSettled flatCalendar
        (play (processVirtualStrategy flatCalendar) {} supersedingTicks).1
        (play (processVirtualStrategy flatCalendar) {} supersedingTicks).2 ∧
      decidedIn (journalOf (play (processVirtualStrategy flatCalendar) {} supersedingTicks).1) =
        ["intent", "other"] ∧
      openedIn (journalOf (play (processVirtualStrategy flatCalendar) {} supersedingTicks).1) =
        ["other"] := by
  have hrun := run_play (processVirtualStrategy flatCalendar) supersedingTicks {}
  refine ⟨one_decision_per_signal flatCalendar hrun fun past t events rest hlog => ?_,
    by decide +kernel, by decide +kernel⟩
  refine forall_split_iff (P := fun past step => Remembered (journalOf past) step.1).mpr ?_
    past (t, events) rest hlog
  decide +kernel

/-! ## A run that forgets -/

/-- Idle, with this memory of used signals. -/
structure Idle (ids : List String) (s : VirtualState) : Prop where
  active : s.active = none
  pending : s.pendingTradeIntent = none
  consumed : s.consumedSignals.map (·.id) = ids.rtake maxConsumedSignals

theorem process_idle (hon : t.policy.virtualStrategyEnabled = true)
    (hallowed : t.newEntriesAllowed = true) (hactive : w.active = none)
    (hpending : w.pending = none)
    (hloaded : loadWorking calendar s = w) (hready : t.tradeIntent.ready = true)
    (hcontract : t.tradeIntent.contractId ≠ "")
    (hnew : t.tradeIntent.intentId ∉ w.consumed.map (·.id))
    (hpublic : t.rustTraderNotificationOwner = false) : processVirtualStrategy calendar s t =
      finishTick calendar (settleEntry w t.tradeIntent t.now
        (evaluateTradeIntentEntry t.tradeIntent t.market t.now t.policy
          t.expectedTradeIntentPolicyVersion none)) s t := by
  have hstatus := of_decide_eq_true hready
  have hsupersede : ∀ current, supersedeWaiter w current t.now = w := by
    intro current
    unfold supersedeWaiter
    rw [hpending]
  have hentry : newEpisodeEntry calendar t.tradeIntent t w.consumed =
      some (evaluateTradeIntentEntry t.tradeIntent t.market t.now t.policy
        t.expectedTradeIntentPolicyVersion none) := by
    unfold newEpisodeEntry
    rw [if_pos ⟨hstatus.1, hstatus.2, hnew, hcontract⟩, hpublic]
    rfl
  unfold processVirtualStrategy
  rw [if_neg (by rw [hon]; decide), hloaded, censorWaiter_of_allowed hallowed,
    replaceWithGthSpread_of_sound calendar (by intro e he; rw [hactive] at he; cases he), openEntry,
    if_neg (by simp [hactive, hallowed])]
  dsimp only
  rw [hsupersede, hpending, if_pos hready, Option.none_or, Option.getD_some, hentry]

/-- An intent that may not be traded, under this id. -/
def shadowTick (id : String) : StrategyTick :=
  { tickAt 1 (some 9) true with tradeIntent := { readyIntent id with shadowMode := some true } }

variable {ids : List String}

theorem Idle.load (h : Idle ids s) (hplain : ∀ id ∈ ids, Plain id) (hdistinct : ids.Nodup) :
    loadConsumedSignals s.consumedSignals = s.consumedSignals := by
  refine loadConsumedSignals_of_plain (fun id hid => ?_) ?_ ?_
  · rw [h.consumed] at hid
    exact hplain id (mem_of_mem_rtake hid)
  · rw [h.consumed]
    exact (rtake_sublist _ _).nodup hdistinct
  · rw [← length_map (·.id), h.consumed]
    exact length_rtake_le _ _

variable {id : String}

theorem shadow_contract : (shadowTick id).tradeIntent.contractId ≠ "" := by
  show "SPXW:6900:C" ≠ ""
  decide

theorem shadow_ready (hid : id ≠ "") : (shadowTick id).tradeIntent.ready = true := by
  show decide ("trade_ready" = "trade_ready" ∧ id ≠ "") = true
  exact decide_eq_true ⟨rfl, hid⟩

theorem shadow_refused (hid : id ≠ "") :
    let answer := evaluateTradeIntentEntry (shadowTick id).tradeIntent (shadowTick id).market
      (shadowTick id).now (shadowTick id).policy (shadowTick id).expectedTradeIntentPolicyVersion
      none
    answer.1 = none ∧ answer.2.terminal = true ∧ answer.2.sourceSignalId = some id ∧
      answer.2.sourceKind = .tradeIntent := by
  have hissues : liveTradeIntentAuthorityIssues (shadowTick id).tradeIntent ≠ [] := by
    show liveTradeIntentAuthorityIssues (shadowTick "").tradeIntent ≠ []
    decide +kernel
  have hpresent : (shadowTick id).tradeIntent.intentId ≠ "" := hid
  unfold evaluateTradeIntentEntry
  rw [if_neg hpresent, if_neg shadow_contract, if_pos hissues]
  refine ⟨rfl, rfl, ?_, rfl⟩
  show nonEmpty id = some id
  rw [nonEmpty, if_neg hid]

/-- **An intent that may not be traded is used up at once.** -/
theorem Idle.shadow (h : Idle ids s) (hplain : ∀ id ∈ ids, Plain id) (hdistinct : ids.Nodup)
    (hid : Plain id) (hnew : id ∉ ids) :
    Idle (ids ++ [id]) (processVirtualStrategy calendar s (shadowTick id)).2 := by
  have hload := h.load hplain hdistinct
  have hactive : (loadWorking calendar s).active = none := by
    show s.active.map _ = none
    rw [h.active, Option.map_none]
  have hunused : id ∉ (loadWorking calendar s).consumed.map (·.id) := by
    simp only [loadWorking, hload]
    rw [h.consumed]
    exact fun hmem => hnew (mem_of_mem_rtake hmem)
  have hdecision := shadow_refused hid.present
  generalize hanswer : evaluateTradeIntentEntry (shadowTick id).tradeIntent (shadowTick id).market
    (shadowTick id).now (shadowTick id).policy (shadowTick id).expectedTradeIntentPolicyVersion
    none = answer at hdecision
  rw [process_idle calendar rfl rfl hactive h.pending rfl (shadow_ready hid.present)
    shadow_contract hunused rfl, hanswer,
    settleEntry_refused hdecision.1 hdecision.2.1 hdecision.2.2.1 (fun _ => h.pending)]
  have hids : (markSignalConsumed (loadWorking calendar s).consumed id (shadowTick id).now).map
      (·.id) = (ids ++ [id]).rtake maxConsumedSignals :=
    markSignalConsumed_ids (by simp only [loadWorking, hload]; exact h.consumed) hid hnew
  rw [finishTick_idle calendar (by rw [Working.decide_active]; exact hactive)]
  refine ⟨?_, ?_, ?_⟩
  · simp [saveWorking, hactive]
  · simp [saveWorking]
  · simp only [saveWorking, Working.decide_consumed]
    rw [rtake_eq_self, hids]
    rw [← length_map (·.id), hids]
    exact length_rtake_le _ _

/-- The id of the shadow intent number `n`. -/
def shadowId (n : ℕ) : String := String.ofList (List.replicate (n + 1) 'b')

theorem shadowId_injective {n m : ℕ} (h : shadowId n = shadowId m) : n = m := by
  have hlength := congrArg List.length (String.ofList_injective h)
  rw [length_replicate, length_replicate] at hlength
  omega

theorem plain_shadowId (n : ℕ) : Plain (shadowId n) := by
  have hsolid : ∀ c ∈ List.replicate (n + 1) 'b', isSpace c = false := by
    intro c hc
    rw [eq_of_mem_replicate hc]
    decide
  refine ⟨fun h => ?_, ?_⟩
  · have hlength := congrArg (List.length ∘ String.toList) h
    simp [shadowId] at hlength
  · rw [strip, shadowId, String.toList_ofList, stripChars_eq_self hsolid]

/-- The ids of a shadow run: a first signal, and then `n` intents that may not be traded. -/
def shadowIds (n : ℕ) : List String := "intent" :: (List.range n).map shadowId

theorem shadowIds_nodup (n : ℕ) : (shadowIds n).Nodup := by
  refine nodup_cons.mpr ⟨fun hmem => ?_, nodup_range.map fun _ _ => shadowId_injective⟩
  obtain ⟨m, -, hm⟩ := mem_map.mp hmem
  have hhead := congrArg (List.head? ∘ String.toList) hm
  simp only [shadowId, Function.comp_apply, String.toList_ofList, replicate_succ,
    head?_cons] at hhead
  exact absurd hhead (by decide)

theorem plain_shadowIds (n : ℕ) : ∀ id ∈ shadowIds n, Plain id := by
  intro id hid
  rcases mem_cons.mp hid with rfl | hid
  · exact ⟨by decide, by decide⟩
  · obtain ⟨m, -, rfl⟩ := mem_map.mp hid
    exact plain_shadowId m

/-- The presented ids have no blanks around them. -/
def AllStripped (log : List (StrategyTick × List StrategyEvent)) : Prop :=
  ∀ step ∈ log, ∀ id ∈ presented step.1, strip id = id

theorem AllStripped.append (h : AllStripped log) (h' : AllStripped rest) :
    AllStripped (log ++ rest) := by
  intro step hstep
  rcases mem_append.mp hstep with hstep | hstep
  · exact h step hstep
  · exact h' step hstep

theorem allStripped_single (t : StrategyTick) (events : List StrategyEvent)
    (hintent : strip t.tradeIntent.intentId = t.tradeIntent.intentId)
    (hsignal : t.gthSignal = noGthSignal) : AllStripped [(t, events)] := by
  intro step hstep id hid
  rw [mem_singleton.mp hstep] at hid
  rcases mem_cons.mp hid with rfl | hid
  · exact hintent
  · rw [mem_singleton.mp hid, hsignal]
    decide

theorem shadowRun (h : Idle ["intent"] s) (n : ℕ) :
    ∃ log s', Run (processVirtualStrategy calendar) anyStep s log s' ∧ AllStripped log ∧
      Idle (shadowIds n) s' := by
  induction n with
  | zero =>
    refine ⟨[], s, .nil, ?_, h⟩
    intro step hstep
    cases hstep
  | succ n ih =>
    obtain ⟨log, s', hrun, hstripped, hidle⟩ := ih
    refine ⟨_, _, hrun.snoc (shadowTick (shadowId n)) trivial,
      hstripped.append (allStripped_single _ _ (plain_shadowId n).stripped rfl), ?_⟩
    have hsplit : shadowIds (n + 1) = shadowIds n ++ [shadowId n] := by
      rw [shadowIds, range_succ, map_append]
      rfl
    have hnodup := shadowIds_nodup (n + 1)
    rw [hsplit]
    rw [hsplit] at hnodup
    refine hidle.shadow calendar (plain_shadowIds n) (shadowIds_nodup n) (plain_shadowId n)
      fun hmem => ?_
    exact (nodup_append.mp hnodup).2.2 _ hmem _ (mem_singleton.mpr rfl) rfl

def targetTick (t : StrategyTick) : StrategyTick :=
  { t with market := { t.market with spx := fun _ => some 6950 } }

/-- The signal opens an episode, and the target is reached a second later. -/
def tradedTicks : List StrategyTick := [tickAt 0 (some 9) true, targetTick (tickAt 1 (some 9) true)]

theorem idle_traded :
    Idle ["intent"] (play (processVirtualStrategy flatCalendar) {} tradedTicks).2 where
  active := Option.isNone_iff_eq_none.mp (by decide +kernel)
  pending := Option.isNone_iff_eq_none.mp (by decide +kernel)
  consumed := by decide +kernel

theorem Idle.reopen (h : Idle ids s) (hplain : ∀ id ∈ ids, Plain id) (hdistinct : ids.Nodup)
    (hforgotten : "intent" ∉ ids.rtake maxConsumedSignals) :
    "intent" ∈ openedIn (processVirtualStrategy flatCalendar s (tickAt 10 (some 9) true)).1 := by
  have hload := h.load hplain hdistinct
  have hactive : (loadWorking flatCalendar s).active = none := by
    show s.active.map _ = none
    rw [h.active, Option.map_none]
  have hunused : "intent" ∉ (loadWorking flatCalendar s).consumed.map (·.id) := by
    simp only [loadWorking, hload]
    rwa [h.consumed]
  have hanswer : (evaluateTradeIntentEntry (readyIntent "intent") (callAt (some 9)) 10000000 {}
      none none).1.map (·.sourceSignalId) = some "intent" := by
    decide +kernel
  obtain ⟨e, he, hsource⟩ := Option.map_eq_some_iff.mp hanswer
  have hprocess := process_idle flatCalendar (t := tickAt 10 (some 9) true) rfl rfl hactive
    h.pending rfl (by decide +kernel) (by decide +kernel) hunused rfl
  obtain ⟨tail, htail⟩ := finishTick_journal flatCalendar (s := s)
    (t := tickAt 10 (some 9) true) (w := settleEntry (loadWorking flatCalendar s)
      (readyIntent "intent") 10000000 (evaluateTradeIntentEntry (readyIntent "intent")
        (callAt (some 9)) 10000000 {} none none))
  have hjournal : (processVirtualStrategy flatCalendar s (tickAt 10 (some 9) true)).1 = _ :=
    (congrArg Prod.fst hprocess).trans htail
  rw [hjournal, settleEntry_opened he hsource, Working.enter_journal, openedIn_append,
    openedIn_append]
  refine mem_append_left _ (mem_append_right _ ?_)
  show "intent" ∈ [e.sourceSignalId]
  rw [hsource]
  simp

/-- **A signal that was forgotten, or that has a blank before it, opens a second episode.** -/
theorem signal_opens_twice :
    (∃ log s, Run (processVirtualStrategy flatCalendar) anyStep {} log s ∧ AllStripped log ∧
      ¬(openedIn (journalOf log)).Nodup) ∧
    openedIn (journalOf (play (processVirtualStrategy flatCalendar) {}
      [{ tickAt 0 (some 9) true with tradeIntent := readyIntent " intent" },
        targetTick { tickAt 1 (some 9) true with tradeIntent := readyIntent " intent" },
        { tickAt 2 (some 9) true with tradeIntent := readyIntent " intent" }]).1) =
      [" intent", " intent"] := by
  refine ⟨?_, by decide +kernel⟩
  have htraded := run_play (processVirtualStrategy flatCalendar) tradedTicks {}
  obtain ⟨log, s, hshadow, hstripped, hidle⟩ := shadowRun flatCalendar idle_traded 200
  have hforgotten : "intent" ∉ (shadowIds 200).rtake maxConsumedSignals := by
    have hnodup := shadowIds_nodup 200
    have hrest : (shadowIds 200).rtake maxConsumedSignals = (List.range 200).map shadowId := by
      rw [List.rtake, shadowIds, length_cons, length_map, length_range]
      rfl
    rw [hrest]
    exact (nodup_cons.mp hnodup).1
  have hsecond := hidle.reopen (plain_shadowIds 200) (shadowIds_nodup 200) hforgotten
  have hintent : strip (readyIntent "intent").intentId = (readyIntent "intent").intentId := by
    decide +kernel
  have hfirstTicks : AllStripped (play (processVirtualStrategy flatCalendar) {} tradedTicks).1 :=
    (allStripped_single (tickAt 0 (some 9) true) _ hintent rfl).append
      (allStripped_single (targetTick (tickAt 1 (some 9) true)) _ hintent rfl)
  refine ⟨_, _, (htraded.trans hshadow).snoc (tickAt 10 (some 9) true) trivial,
    (hfirstTicks.append hstripped).append
      (allStripped_single (tickAt 10 (some 9) true) _ hintent rfl), fun hnodup => ?_⟩
  · rw [journalOf_snoc, openedIn_append] at hnodup
    have hfirst : "intent" ∈ openedIn (journalOf
        ((play (processVirtualStrategy flatCalendar) {} tradedTicks).1 ++ log)) := by
      rw [journalOf, flatMap_append, openedIn_append]
      refine mem_append_left _ ?_
      decide +kernel
    exact (nodup_append.mp hnodup).2.2 _ hfirst _ hsecond rfl

end SpxSpark.MarketFeatures
