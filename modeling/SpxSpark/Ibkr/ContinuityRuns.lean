import SpxSpark.Ibkr.Continuity

/-!
# ContinuityRuns — what the ledger says of every run of health samples

Two things are carried along a run: the ledger since the last ended gap, whose events all name the
start of the open gap, and the healthy samples that a recovery has counted so far.
-/

namespace SpxSpark.Ibkr

open Lib List

namespace Continuity

/-- One sample of a run, with what it appended to the ledger. -/
abbrev Entry := Sample × Option LedgerEvent

def step (policy : ContinuityPolicy) (previous : Option ContinuityState) (sample : Sample) :
    Option LedgerEvent × Option ContinuityState :=
  let advanced := advanceContinuity policy previous sample
  (advanced.1, some advanced.2)

variable {policy : ContinuityPolicy}

/-! ## The ledger since the last ended gap -/

/-- Nothing, or entries of which the last ends a gap. -/
def EndsGap (evs : List Entry) : Prop :=
  evs = [] ∨ ∃ before sample event, evs = before ++ [(sample, some event)] ∧ event.event = .gapEnd

/-- Since the last ended gap no gap was ended, and every event names the start `gap` of the gap that
is open; the event that opened it is among them. Without an open gap there is no event. -/
structure OpenSince (gap : Option Instant) (since : List Entry) : Prop where
  names : ∀ ev ∈ since, ∀ event, ev.2 = some event → event.event ≠ .gapEnd ∧ event.gapStart = gap
  opens : ∀ start, gap = some start → ∃ ev ∈ since, ∃ event, ev.2 = some event ∧
    event.event = .gapStart ∧ event.gapStart = some start
  quiet : gap = none → ∀ ev ∈ since, ev.2 = none

theorem OpenSince.nil : OpenSince none [] where
  names _ hev := nomatch hev
  opens _ h := nomatch h
  quiet _ _ hev := nomatch hev

theorem OpenSince.silent {gap : Option Instant} {since : List Entry} (h : OpenSince gap since)
    (sample : Sample) : OpenSince gap (since ++ [(sample, none)]) where
  names ev hev event hevent := by
    rcases mem_append.mp hev with hev | hev
    · exact h.names ev hev event hevent
    · rw [mem_singleton.mp hev] at hevent
      cases hevent
  opens start hstart := by
    obtain ⟨ev, hev, event, hevent⟩ := h.opens start hstart
    exact ⟨ev, mem_append_left _ hev, event, hevent⟩
  quiet hnone ev hev := by
    rcases mem_append.mp hev with hev | hev
    · exact h.quiet hnone ev hev
    · rw [mem_singleton.mp hev]

theorem OpenSince.event {gap : Option Instant} {since : List Entry} (h : OpenSince gap since)
    {start : Instant} (sample : Sample) {event : LedgerEvent} (hgap : gap = none ∨ gap = some start)
    (hnotEnd : event.event ≠ .gapEnd) (hnames : event.gapStart = some start)
    (hopens : gap = none → event.event = .gapStart) :
    OpenSince (some start) (since ++ [(sample, some event)]) where
  names ev hev event' hevent := by
    rcases mem_append.mp hev with hev | hev
    · rcases hgap with hnone | hsome
      · rw [h.quiet hnone ev hev] at hevent
        cases hevent
      · rw [← hsome]
        exact h.names ev hev event' hevent
    · rw [mem_singleton.mp hev] at hevent
      obtain rfl := Option.some.inj hevent
      exact ⟨hnotEnd, hnames⟩
  opens start' hstart := by
    obtain rfl := Option.some.inj hstart
    rcases hgap with hnone | hsome
    · exact ⟨_, mem_append_right _ (mem_singleton_self _), event, rfl, hopens hnone, hnames⟩
    · obtain ⟨ev, hev, event', hevent⟩ := h.opens start hsome
      exact ⟨ev, mem_append_left _ hev, event', hevent⟩
  quiet hnone := nomatch hnone

/-! ## Recoveries -/

/-- Consecutive healthy samples, with the last observation time that counted and how many did: each
observation that counts is later than the one before it, by the health's maximum age at most. The
others repeat an observation already counted. Only the first may have opened a gap. -/
inductive Recovery (policy : ContinuityPolicy) : List Entry → Instant → ℕ → Prop
  | first {sample : Sample} {event : Option LedgerEvent} {observed : Instant} :
      sample.healthyAt policy observed → Recovery policy [(sample, event)] observed 1
  | repeated {entries : List Entry} {sample : Sample} {last observed : Instant} {count : ℕ} :
      Recovery policy entries last count → sample.healthyAt policy observed → observed ≤ last →
      Recovery policy (entries ++ [(sample, none)]) last count
  | next {entries : List Entry} {sample : Sample} {event : LedgerEvent} {last observed : Instant}
      {count : ℕ} :
      Recovery policy entries last count → sample.healthyAt policy observed → last < observed →
      secondsBetween observed last ≤ sample.health.maxAge → event.event ≠ .gapStart →
      Recovery policy (entries ++ [(sample, some event)]) observed (count + 1)

/-- What a run's end says of its state. -/
structure Told (policy : ContinuityPolicy) (evs : List Entry) (state : ContinuityState) :
    Prop where
  ledger : ∃ closed since, evs = closed ++ since ∧ EndsGap closed ∧ OpenSince state.gapStart since
  opened : state.state = .gap ∨ state.state = .recovering ↔ state.gapStart.isSome = true
  gap : state.state = .gap → state.healthySamples = 0
  recovering : state.state = .recovering → ∃ past recent last, evs = past ++ recent ∧
    state.lastGoodAt = some last ∧ Recovery policy recent last state.healthySamples

theorem Told.start (now : Instant) : Told policy [] (priorState none now) where
  ledger := ⟨[], [], rfl, .inl rfl, .nil⟩
  opened := by
    constructor
    · rintro (h | h) <;> cases h
    · intro h
      cases h
  gap h := nomatch h
  recovering h := nomatch h

variable {evs : List Entry}

theorem Told.gapStart_eq {state : ContinuityState} (h : Told policy evs state)
    (hopen : state.state = .gap ∨ state.state = .recovering) (now : Instant) :
    state.gapStart = some (state.gapStart.getD now) := by
  obtain ⟨start, hstart⟩ := Option.isSome_iff_exists.mp (h.opened.mp hopen)
  rw [hstart]
  rfl

theorem Told.gapStart_none {state : ContinuityState} (h : Told policy evs state)
    (hgap : state.state ≠ .gap) (hrecovering : state.state ≠ .recovering) :
    state.gapStart = none := by
  by_contra hsome
  rcases h.opened.mpr (Option.isSome_iff_ne_none.mpr hsome) with hopen | hopen
  · exact hgap hopen
  · exact hrecovering hopen

theorem opens_at (state : ContinuityState) (start : Instant) :
    state.gapStart = none ∨ state.gapStart = some (state.gapStart.getD start) := by
  cases state.gapStart with
  | none => exact .inl rfl
  | some _ => exact .inr rfl

theorem or_some_eq (gap : Option Instant) (start : Instant) :
    gap.or (some start) = some (gap.getD start) := by
  cases gap <;> rfl

theorem Told.counts {prior : ContinuityState} (h : Told policy evs prior) {sample : Sample}
    {event : LedgerEvent} {observed : Instant} (hat : sample.healthyAt policy observed)
    (hclose : ∀ good, prior.lastGoodAt = some good → good < observed ∧
      (prior.state = .recovering → secondsBetween observed good ≤ sample.health.maxAge))
    (hopen : prior.state = .gap ∨ prior.state = .recovering) (hevent : event.event ≠ .gapStart) :
    ∃ past recent, evs ++ [(sample, some event)] = past ++ recent ∧
      Recovery policy recent observed (prior.healthySamples + 1) := by
  rcases hopen with hgap | hrecovering
  · rw [h.gap hgap]
    exact ⟨evs, [(sample, some event)], rfl, .first hat⟩
  · obtain ⟨past, recent, last, rfl, hlast, hrecovery⟩ := h.recovering hrecovering
    obtain ⟨hlt, hle⟩ := hclose last hlast
    exact ⟨past, recent ++ [(sample, some event)], append_assoc _ _ _,
      hrecovery.next hat hlt (hle hrecovering) hevent⟩

/-- **The step.** Every move keeps what the run says of its state. -/
theorem Told.move {prior state : ContinuityState} {sample : Sample} {event : Option LedgerEvent}
    (h : Told policy evs prior) (hmove : PhaseMove policy prior sample event state) :
    Told policy (evs ++ [(sample, event)]) state := by
  obtain ⟨closed, since, hevs, hends, hsince⟩ := h.ledger
  have hassoc : ∀ event, evs ++ [(sample, event)] = closed ++ (since ++ [(sample, event)]) := by
    intro event
    rw [hevs, append_assoc]
  cases hmove with
  | @repeated observed hat hrep =>
    refine ⟨⟨closed, _, hassoc none, hends, hsince.silent sample⟩, h.opened, h.gap, ?_⟩
    intro hrecovering
    obtain ⟨past, recent, last, rfl, hlast, hrecovery⟩ := h.recovering hrecovering
    obtain ⟨good, hgood, hle⟩ := hrep
    obtain rfl := Option.some.inj (hlast.symm.trans hgood)
    exact ⟨past, recent ++ [(sample, none)], last, append_assoc _ _ _, hlast,
      hrecovery.repeated hat hle⟩
  | @silent observed good event _ hat _ _ _ hevent hnames hstate hgap hlast hcount =>
    rw [or_some_eq] at hnames hgap
    have hopen : OpenSince state.gapStart (since ++ [(sample, some event)]) := by
      rw [hgap]
      refine hsince.event sample (opens_at prior good) ?_ hnames fun _ => hevent
      rw [hevent]
      decide
    refine ⟨⟨closed, _, hassoc _, hends, hopen⟩, ?_, ?_, ?_⟩
    · rw [hstate, hgap]
      simp
    · intro hstate'
      rw [hstate] at hstate'
      cases hstate'
    · intro _
      rw [hcount]
      exact ⟨evs, _, observed, rfl, hlast, .first hat⟩
  | @counted observed event _ hat hclose hopen _ hevent hnames hstate hgap hlast hcount =>
    have hnotStart : event.event ≠ .gapStart := by
      rw [hevent]
      decide
    have hgapEq := h.gapStart_eq hopen sample.now
    refine ⟨⟨closed, _, hassoc _, hends, ?_⟩, ?_, ?_, ?_⟩
    · rw [hgap]
      refine hsince.event sample (.inr hgapEq) ?_ hnames ?_
      · rw [hevent]
        decide
      · intro hnone
        rw [hnone] at hgapEq
        cases hgapEq
    · rw [hstate, hgap]
      simp
    · intro hstate'
      rw [hstate] at hstate'
      cases hstate'
    · intro _
      obtain ⟨past, recent, hsplit, hrecovery⟩ := h.counts hat hclose hopen hnotStart
      rw [hcount]
      exact ⟨past, recent, observed, hsplit, hlast, hrecovery⟩
  | recovered _ _ _ _ hevent _ hstate hgap =>
    refine ⟨⟨evs ++ [(sample, some _)], [], (append_nil _).symm,
      .inr ⟨evs, sample, _, rfl, hevent⟩, ?_⟩, ?_, ?_, ?_⟩
    · rw [hgap]
      exact .nil
    · rw [hstate, hgap]
      decide
    · intro hstate'
      rw [hstate] at hstate'
      cases hstate'
    · intro hstate'
      rw [hstate] at hstate'
      cases hstate'
  | steady hgap hrecovering hstate hnone =>
    have hprior := h.gapStart_none hgap hrecovering
    refine ⟨⟨closed, _, hassoc none, hends, ?_⟩, ?_, ?_, ?_⟩
    · rw [hnone, ← hprior]
      exact hsince.silent sample
    · rw [hstate, hnone]
      decide
    · intro hstate'
      rw [hstate] at hstate'
      cases hstate'
    · intro hstate'
      rw [hstate] at hstate'
      cases hstate'
  | suspected hgap hrecovering hstate hsame =>
    have hprior := h.gapStart_none hgap hrecovering
    refine ⟨⟨closed, _, hassoc none, hends, ?_⟩, ?_, ?_, ?_⟩
    · rw [hsame]
      exact hsince.silent sample
    · rw [hstate, hsame, hprior]
      decide
    · intro hstate'
      rw [hstate] at hstate'
      cases hstate'
    · intro hstate'
      rw [hstate] at hstate'
      cases hstate'
  | fellBack hopen hstate hsame hzero =>
    refine ⟨⟨closed, _, hassoc none, hends, ?_⟩, ?_, fun _ => hzero, ?_⟩
    · rw [hsame]
      exact hsince.silent sample
    · rw [hstate, hsame]
      exact ⟨fun _ => h.opened.mp hopen, fun _ => .inl rfl⟩
    · intro hstate'
      rw [hstate] at hstate'
      cases hstate'
  | stillOpen hgap hstate hstart hzero =>
    refine ⟨⟨closed, _, hassoc none, hends, ?_⟩, ?_, fun _ => hzero, ?_⟩
    · rw [hstart, ← h.gapStart_eq (.inl hgap) sample.now]
      exact hsince.silent sample
    · rw [hstate, hstart]
      simp
    · intro hstate'
      rw [hstate] at hstate'
      cases hstate'
  | opened hgap hevent hnames hstate hstart hzero =>
    refine ⟨⟨closed, _, hassoc _, hends, ?_⟩, ?_, fun _ => hzero, ?_⟩
    · rw [hstart]
      refine hsince.event sample (opens_at prior sample.now) ?_ hnames
        fun _ => hevent
      rw [hevent]
      decide
    · rw [hstate, hstart]
      simp
    · intro hstate'
      rw [hstate] at hstate'
      cases hstate'

theorem run_told {state : Option ContinuityState} (h : Run (step policy) anyStep none evs state)
    (now : Instant) : Told policy evs (priorState state now) := by
  cases h with
  | nil => exact .start now
  | snoc sample hrun hok =>
    have hall : ∀ {evs : List Entry} {state : Option ContinuityState},
        Run (step policy) anyStep none evs state →
          ∀ now, Told policy evs (priorState state now) := by
      intro evs state hrun
      refine hrun.invariant_log (I := fun evs state =>
        ∀ now, Told policy evs (priorState state now)) (fun now => .start now) ?_
      intro evs state sample htold _ _
      exact (htold sample.now).move (advanceContinuity_move policy state sample)
    exact hall (hrun.snoc sample hok) now

/-- **The ledger over every run of samples.** An event that ends a gap follows, since the last gap
that ended, the event that opened this one, and every event in between names the same start. The
state goes from an open gap to healthy only through as many healthy observations as the policy asks
for, in a row. A healthy observation that was seen before changes neither the state nor the
ledger. -/
theorem ledger_tells_gaps {evs : List Entry} {state : Option ContinuityState}
    (h : Run (step policy) anyStep none evs state) (sample : Sample) :
    let after := step policy state sample
    (∀ event, after.1 = some event → event.event = .gapEnd → ∃ start closed since,
      event.gapStart = some start ∧ evs = closed ++ since ∧ EndsGap closed ∧
        (∀ ev ∈ since, ∀ event', ev.2 = some event' →
          event'.event ≠ .gapEnd ∧ event'.gapStart = some start) ∧
        ∃ ev ∈ since, ∃ event', ev.2 = some event' ∧ event'.event = .gapStart) ∧
    (∀ prior next, state = some prior → prior.gapStart.isSome = true → after.2 = some next →
      next.state = .healthy →
      (∃ event, after.1 = some event ∧ event.event = .gapEnd) ∧
        ∃ past recent last count, evs ++ [(sample, after.1)] = past ++ recent ∧
          Recovery policy recent last count ∧ policy.rearmSamples ≤ count) ∧
    (∀ prior observed, state = some prior → sample.healthyAt policy observed →
      prior.repeats observed → after = (none, state)) := by
  dsimp only
  have htold := run_told h sample.now
  have hmove := advanceContinuity_move policy state sample
  refine ⟨?_, ?_, ?_⟩
  · intro event hevent hends
    obtain ⟨closed, since, hevs, hclosed, hsince⟩ := htold.ledger
    have hevent' : (advanceContinuity policy state sample).1 = some event := hevent
    rw [hevent'] at hmove
    generalize (advanceContinuity policy state sample).2 = next at hmove
    cases hmove with
    | silent _ _ _ _ hkind =>
      rw [hkind] at hends
      cases hends
    | counted _ _ _ _ hkind =>
      rw [hkind] at hends
      cases hends
    | opened _ hkind =>
      rw [hkind] at hends
      cases hends
    | recovered _ _ hopen _ _ hnames =>
      have hgap := htold.gapStart_eq hopen sample.now
      rw [hgap] at hsince
      obtain ⟨ev, hev, event', hevent', hstart, -⟩ := hsince.opens _ rfl
      exact ⟨_, closed, since, hnames, hevs, hclosed, hsince.names, ev, hev, event', hevent',
        hstart⟩
  · intro prior next hprior hsome hnext hhealthy
    subst hprior
    have hopen := htold.opened.mpr hsome
    have hopen' : prior.state = .gap ∨ prior.state = .recovering := hopen
    have hnext' : (advanceContinuity policy (some prior) sample).2 = next := Option.some.inj hnext
    rw [hnext'] at hmove
    show (∃ event, (advanceContinuity policy (some prior) sample).1 = some event ∧ _) ∧
      ∃ past recent last count, evs ++ [(sample, (advanceContinuity policy (some prior) sample).1)]
        = _ ∧ _
    generalize (advanceContinuity policy (some prior) sample).1 = event at hmove
    have hmove' : PhaseMove policy prior sample event next := hmove
    cases hmove' with
    | repeated =>
      rw [hhealthy] at hopen'
      rcases hopen' with hopen' | hopen' <;> cases hopen'
    | silent _ _ _ _ _ _ hstate =>
      rw [hhealthy] at hstate
      cases hstate
    | counted _ _ _ _ _ _ hstate =>
      rw [hhealthy] at hstate
      cases hstate
    | @recovered observed event _ hat hclose _ hrearm hevent _ _ _ =>
      have hnotStart : event.event ≠ .gapStart := by
        rw [hevent]
        decide
      obtain ⟨past, recent, hsplit, hrecovery⟩ := htold.counts hat hclose hopen hnotStart
      exact ⟨⟨event, rfl, hevent⟩, past, recent, observed, _, hsplit, hrecovery, hrearm⟩
    | steady hgap hrecovering =>
      rcases hopen' with hopen' | hopen'
      · exact absurd hopen' hgap
      · exact absurd hopen' hrecovering
    | suspected _ _ hstate =>
      rw [hhealthy] at hstate
      cases hstate
    | fellBack _ hstate =>
      rw [hhealthy] at hstate
      cases hstate
    | stillOpen _ hstate =>
      rw [hhealthy] at hstate
      cases hstate
    | opened _ _ _ hstate =>
      rw [hhealthy] at hstate
      cases hstate
  · intro prior observed hprior hat hrep
    subst hprior
    obtain ⟨reason, hstatus⟩ := hat
    have hsame : advanceContinuity policy (some prior) sample = (none, prior) := by
      unfold advanceContinuity
      dsimp only
      rw [hstatus]
      exact if_pos hrep
    show ((advanceContinuity policy (some prior) sample).1,
      some (advanceContinuity policy (some prior) sample).2) = _
    rw [hsame]

/-- A healthy projection, observed at the given instant. -/
def healthyProjection (observedAt : Instant) : StreamHealth where
  observedAt := some observedAt
  maxAgeSeconds := some 90
  policyBlocked := false
  circuitState := some "closed"
  conflictCount := some 0
  connected := true
  dataPlaneHealthy := true

/-- The same projection again, twenty-one seconds later, is suspect and changes the state. -/
theorem repeated_projection_ages : ∃ evs state, Run (step {}) anyStep none evs state ∧
      (∀ ev ∈ evs, ev.1.health = healthyProjection 0) ∧ evs ≠ [] ∧
      step {} state ⟨healthyProjection 0, 21000000⟩ ≠ (none, state) := by
  refine ⟨_, _, Run.snoc ⟨healthyProjection 0, 0⟩ .nil trivial, ?_, by simp, ?_⟩
  · intro ev hev
    rw [mem_singleton.mp hev]
  · have hphase : ((step {} (step {} none ⟨healthyProjection 0, 0⟩).2
        ⟨healthyProjection 0, 21000000⟩).2.map (·.state)) ≠
          (step {} none ⟨healthyProjection 0, 0⟩).2.map (·.state) := by
      decide +kernel
    intro heq
    exact hphase (congrArg (fun answer => answer.2.map (·.state)) heq)

/-- A stale projection opens a gap, and with one sample to rearm the next healthy one ends it. -/
theorem ledger_tells_gaps_one :
    ∃ event start, (step { rearmSamples := 1 }
        (step { rearmSamples := 1 } none ⟨healthyProjection 0, 91000000⟩).2
        ⟨healthyProjection 92000000, 92000000⟩).1 = some event ∧
      event.event = .gapEnd ∧ event.gapStart = some start := by
  have hrun : Run (step { rearmSamples := 1 }) anyStep none _ _ :=
    Run.snoc ⟨healthyProjection 0, 91000000⟩ .nil trivial
  have hends : ((step { rearmSamples := 1 }
      (step { rearmSamples := 1 } none ⟨healthyProjection 0, 91000000⟩).2
      ⟨healthyProjection 92000000, 92000000⟩).1.map (·.event)) = some .gapEnd := by
    decide +kernel
  obtain ⟨event, hevent, hkind⟩ := Option.map_eq_some_iff.mp hends
  obtain ⟨start, -, -, hstart, -⟩ :=
    (ledger_tells_gaps hrun ⟨healthyProjection 92000000, 92000000⟩).1 event hevent hkind
  exact ⟨event, start, hevent, hkind, hstart⟩

end Continuity

end SpxSpark.Ibkr
