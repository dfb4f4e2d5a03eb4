import SpxSpark.OrderMap.CoordinateSim

/-!
# CoordinateUpgrade — changing to cash SPX in the middle of an event

A regular session may start on ES-equivalent prices and find cash SPX later. The first good cash
observation rebases the active event.
-/

namespace SpxSpark.OrderMap

open Lib List

variable {settings : LevelDecisionSettings} {b : ℚ} {a e : LevelEvent} {o : LevelObservation}
  {c : Feed}

/-! ## What the two runs are compared by -/

namespace LevelState

def thesis : LevelState → LevelThesis
  | .far _ => .none
  | .event e => e.thesis

def direction : LevelState → Option Direction
  | .far _ => none
  | .event e => e.direction

/-- The instants the machine counts from, and the one it counts to. -/
def clocks : LevelState → List (Option Instant)
  | .far _ => []
  | .event e => [e.startedAt, e.phaseAt, e.expiresAt, e.confirmStartedAt, e.confirmedAt]

/-- An event is under way. -/
def active : LevelState → Bool
  | .far _ => false
  | .event e => !e.phase.terminal

end LevelState

/-- The same phase, thesis, direction, change flag and clocks. -/
structure Agrees (t t' : LevelTransition) : Prop where
  phase : t.currentPhase = t'.currentPhase
  changed : t.changed = t'.changed
  thesis : t.state.thesis = t'.state.thesis
  direction : t.state.direction = t'.state.direction
  clocks : t.state.clocks = t'.state.clocks

theorem StepSim.agrees {t t' : LevelTransition} (h : StepSim c t t') : Agrees t t' := by
  have hstate := h.state
  refine ⟨h.currentPhase, h.changed, ?_, ?_, ?_⟩
  · generalize t.state = s, t'.state = s' at hstate
    cases hstate with
    | far => rfl
    | event he => exact he.thesis
  · generalize t.state = s, t'.state = s' at hstate
    cases hstate with
    | far => rfl
    | event he => exact he.direction
  · generalize t.state = s, t'.state = s' at hstate
    cases hstate with
    | far => rfl
    | event he =>
      simp only [LevelState.clocks, he.startedAt, he.phaseAt, he.expiresAt, he.confirmStartedAt,
        he.confirmedAt]

/-! ## The switch -/

/-- An observation of cash SPX in the regular session. -/
structure OfficialCash (o : LevelObservation) : Prop where
  rth : o.sessionMode = "rth"
  kind : o.triggerCoordinateKind = "official_spx"

theorem OfficialCash.same (h : OfficialCash o) : SameMarket cashFeed o o where
  at' := rfl
  spot := by simp [cashFeed]
  es := rfl
  levels := by simp [cashFeed]
  qualityOk := rfl
  armAllowed := rfl
  sessionDate := rfl
  rth := h.rth
  rth' := h.rth
  kind := h.kind
  kind' := h.kind
  proxied := nofun

theorem eventSim_upgrade (h : EventSim (esFeed b) a e) (o : LevelObservation) :
    EventSim cashFeed (upgradeRthTriggerCoordinate a o) e := by
  have hkind : a.triggerCoordinateKind = "es_equivalent" := h.anchored.kind
  obtain ⟨hbasis, hlevel⟩ := h.anchored.proxied rfl
  have hrebase : rebaseBasis a = b := by
    unfold rebaseBasis
    rw [if_pos hkind, show a.triggerBasisPoints = some b from hbasis, Option.getD_some]
  refine ⟨?_, ⟨rfl, h.anchored.rth, nofun, fun s hs => ?_⟩, h.anchored'⟩
  · have hcash : (upgradeRthTriggerCoordinate a o).inCash 0 = a.inCash b := by
      have hspx : a.spxLevel = a.level - b := hlevel
      simp only [LevelEvent.inCash, upgradeRthTriggerCoordinate, hrebase, hspx, sub_zero,
        Option.map_map, Function.comp_def, Sighting.below, ConfirmationStart.below]
    exact hcash.trans h.view
  · obtain ⟨s', hs', rfl⟩ := Option.map_eq_some_iff.mp hs
    have hstart := h.confirmationStart
    rw [hs'] at hstart
    rw [hrebase]
    exact h.anchored'.priced _ hstart.symm

theorem eventSim_settle (h : EventSim (esFeed b) a e) (hactive : a.phase.terminal = false)
    (ho : OfficialCash o) : EventSim cashFeed (settleEvent a o) { e with quality := .clear } := by
  have hkind : a.triggerCoordinateKind = "es_equivalent" := h.anchored.kind
  have hrth : a.sessionMode = "rth" := h.anchored.rth
  have hupgrade : canUpgradeRthTriggerCoordinate { a with quality := .clear } o = true := by
    simp only [canUpgradeRthTriggerCoordinate, hkind, hrth, hactive, ho.rth, ho.kind]
    decide
  unfold settleEvent
  dsimp only
  rw [if_pos hupgrade]
  exact eventSim_upgrade (eventSim_clear h) o

/-- The feeds an event may be in after the switch: degraded data leaves it in the old one. -/
def Tracked (b : ℚ) (c : Feed) : Prop := c = esFeed b ∨ c = cashFeed

theorem stepSim_switch (h : EventSim (esFeed b) a e) (hactive : a.phase.terminal = false)
    (ho : OfficialCash o) (hpriced : PricedIn cashFeed o) :
    ∃ c, Tracked b c ∧ StepSim c (advanceLevelDecision (some (.event a)) o settings)
      (advanceLevelDecision (some (.event e)) o settings) := by
  have hsim : StateSim (esFeed b) (.event a) (.event e) := .event h
  have hrth : a.sessionMode = "rth" := h.anchored.rth
  have hrth' : e.sessionMode = "rth" := h.anchored'.rth
  have hactive' : e.phase.terminal = false := h.phase ▸ hactive
  have hboundary : sessionBoundaryChanged (.event a) o = sessionBoundaryChanged (.event e) o := by
    simp [sessionBoundaryChanged, hrth, hrth', hactive, hactive', h.sessionDate, ho.rth]
  unfold advanceLevelDecision startState
  dsimp only [Option.getD_some]
  rw [hboundary]
  split
  · exact ⟨_, .inl rfl, stepSim_toFar hsim _ _ rfl⟩
  split
  · rename_i spot es _ hspot _
    have hprice : spot ≠ 0 := (hpriced spot hspot).2
    refine ⟨_, .inr rfl, ?_⟩
    show StepSim cashFeed (advanceEvent (settleEvent a o) o spot es settings)
      (advanceEvent (settleEvent e o) o spot es settings)
    rw [settleEvent_same e (ho.kind.trans h.anchored'.kind.symm)]
    exact stepSim_event (eventSim_settle h hactive ho) ho.same (add_zero spot).symm
      ⟨hprice, hprice⟩
  · exact ⟨_, .inl rfl, stepSim_badQuality hsim rfl⟩

theorem eventId_kept (hactive : a.phase.terminal = false)
    (h : (advanceLevelDecision (some (.event a)) o settings).state = .event e) :
    e.eventId = a.eventId := by
  cases hboundary : sessionBoundaryChanged (startState (some (.event a)) o) o with
  | true =>
    rw [advanceLevelDecision_boundary _ _ _ hboundary] at h
    cases h
  | false =>
    have hout := advanceLevelDecision_outcome (some (.event a)) o settings hboundary
    generalize advanceLevelDecision (some (.event a)) o settings = t at hout h
    cases hout with
    | carried hcarries =>
      rcases hcarries with ⟨e', hstate, _, _, hc, _⟩ | ⟨_, e', hstate, _, _, hc, _⟩
      · cases hstate.symm.trans h
        exact hc.eventId
      · cases hstate.symm.trans h
        exact hc.eventId
    | withdrawn => cases h
    | exited hterminal => simp [hactive] at hterminal
    | rearmed hterminal => simp [hactive] at hterminal

/-! ## Runs -/

/-- The state the machine has stored after some observations. -/
def stateOver (settings : LevelDecisionSettings) (observed : List LevelObservation) :
    Option LevelState :=
  (play (levelStep settings) none observed).2

theorem stateOver_snoc (settings : LevelDecisionSettings) (observed : List LevelObservation)
    (o : LevelObservation) : stateOver settings (observed ++ [o]) =
      some (advanceLevelDecision (stateOver settings observed) o settings).state :=
  play_append_state [o] observed none

theorem stateSim_play {xs ys : List LevelObservation} (h : List.Forall₂ (SameMarket c) xs ys)
    (hpriced : ∀ o ∈ ys, PricedIn c o) {s s' : Option LevelState}
    (hs : Option.Rel (StateSim c) s s') : Option.Rel (StateSim c) (play (levelStep settings) s xs).2
      (play (levelStep settings) s' ys).2 := by
  induction h generalizing s s' with
  | nil => exact hs
  | cons ho _ ih =>
    obtain ⟨hfirst, hrest⟩ := forall_mem_cons.mp hpriced
    exact ih hrest (.some (stepSim_advance hs ho hfirst).state)

/-- The run that switched holds the event of the switch, the cash run the same event in cash. -/
structure InStep (b : ℚ) (id : LevelEventId) (s s' : Option LevelState) : Prop where
  sim : ∃ c, Tracked b c ∧ Option.Rel (StateSim c) s s'
  same : ∀ e, s = some (.event e) → e.eventId = id

theorem stepSim_inStep (settings : LevelDecisionSettings) {id : LevelEventId}
    {s s' : Option LevelState} (h : InStep b id s s')
    (hactive : s.any LevelState.active) (ho : OfficialCash o) (hpriced : PricedIn cashFeed o) :
    ∃ c, Tracked b c ∧
      StepSim c (advanceLevelDecision s o settings) (advanceLevelDecision s' o settings) := by
  obtain ⟨c, rfl | rfl, hs⟩ := h.sim
  · cases hs with
    | none => cases hactive
    | some hs =>
      cases hs with
      | far => cases hactive
      | event he =>
        refine stepSim_switch he ?_ ho hpriced
        simpa [LevelState.active] using hactive
  · exact ⟨cashFeed, .inr rfl, stepSim_advance hs ho.same hpriced⟩

theorem inStep_advance {id : LevelEventId} {s s' : Option LevelState} (h : InStep b id s s')
    (hactive : s.any LevelState.active) (ho : OfficialCash o) (hpriced : PricedIn cashFeed o) :
    InStep b id (some (advanceLevelDecision s o settings).state)
      (some (advanceLevelDecision s' o settings).state) := by
  obtain ⟨c, hc, hstep⟩ := stepSim_inStep settings h hactive ho hpriced
  refine ⟨⟨c, hc, .some hstep.state⟩, fun e he => ?_⟩
  cases s with
  | none => cases hactive
  | some state =>
    cases state with
    | far f => cases hactive
    | event a =>
      have hlive : a.phase.terminal = false := by simpa [LevelState.active] using hactive
      rw [eventId_kept hlive (Option.some.inj he)]
      exact h.same a rfl

theorem inStep_after {es cash sofar : List LevelObservation} {id : LevelEventId}
    (hstart : InStep b id (stateOver settings es) (stateOver settings cash))
    (ho : ∀ o ∈ sofar, OfficialCash o ∧ PricedIn cashFeed o)
    (hlive : ∀ past, past <+: sofar →
      (stateOver settings (es ++ past)).any LevelState.active) :
    InStep b id (stateOver settings (es ++ sofar)) (stateOver settings (cash ++ sofar)) := by
  induction sofar using List.reverseRecOn with
  | nil =>
    rw [append_nil, append_nil]
    exact hstart
  | append_singleton sofar o ih =>
    have hpast := ih (fun x hx => ho x (mem_append_left _ hx)) fun past hp =>
      hlive past (hp.trans (prefix_append _ _))
    obtain ⟨hcash, hpriced⟩ := ho o (by simp)
    rw [← append_assoc, ← append_assoc, stateOver_snoc, stateOver_snoc]
    exact inStep_advance hpast (hlive sofar (prefix_append _ _)) hcash hpriced

/-- **The switch to cash SPX is transparent.** Take a regular session seen on ES-equivalent prices
with one basis, none of which is zero in either coordinate, and switch it to cash SPX while an event
is active. Until that event is over, every step says what the run in cash SPX from the start says,
and the event keeps its id. -/
theorem coordinate_upgrade_transparent (settings : LevelDecisionSettings) (b : ℚ)
    {es cash after sofar rest : List LevelObservation} {o : LevelObservation}
    (hbefore : List.Forall₂ (SameMarket (esFeed b)) es cash)
    (hafter : ∀ o ∈ after, OfficialCash o)
    (hpriced : (∀ o ∈ cash, PricedIn (esFeed b) o) ∧ ∀ o ∈ after, PricedIn cashFeed o)
    (hsplit : after = sofar ++ o :: rest)
    (hlive : ∀ past, past <+: sofar →
      (stateOver settings (es ++ past)).any LevelState.active) :
    Agrees (advanceLevelDecision (stateOver settings (es ++ sofar)) o settings)
        (advanceLevelDecision (stateOver settings (cash ++ sofar)) o settings) ∧
      ∀ event e, stateOver settings es = some (.event event) →
        (advanceLevelDecision (stateOver settings (es ++ sofar)) o settings).state = .event e →
        e.eventId = event.eventId := by
  subst hsplit
  have hsim : Option.Rel (StateSim (esFeed b)) (stateOver settings es) (stateOver settings cash) :=
    stateSim_play hbefore hpriced.1 .none
  obtain ⟨hcash, hprice⟩ : OfficialCash o ∧ PricedIn cashFeed o :=
    ⟨hafter o (by simp), hpriced.2 o (by simp)⟩
  have hactive := hlive sofar prefix_rfl
  have hswitch := hlive [] nil_prefix
  rw [append_nil] at hswitch
  obtain ⟨state, hstate, hevent⟩ := (Option.any_eq_true _ _).mp hswitch
  cases state with
  | far f => cases hevent
  | event event =>
    have hid : ∀ e, stateOver settings es = some (.event e) → e.eventId = event.eventId := by
      intro e he
      cases hstate.symm.trans he
      rfl
    have hin : InStep b event.eventId (stateOver settings (es ++ sofar))
        (stateOver settings (cash ++ sofar)) := by
      refine inStep_after ⟨⟨_, .inl rfl, hsim⟩, hid⟩ (fun x hx => ?_) hlive
      exact ⟨hafter x (mem_append_left _ hx), hpriced.2 x (mem_append_left _ hx)⟩
    obtain ⟨c, _, hstep⟩ := stepSim_inStep settings hin hactive hcash hprice
    refine ⟨hstep.agrees, fun event' e hevent' he => ?_⟩
    rw [hid event' hevent']
    exact (inStep_advance hin hactive hcash hprice).same e (congrArg some he)

/-! ## A session on both feeds -/

/-- A cash observation as the ES feed shows it. -/
def shownInEs (b : ℚ) (o : LevelObservation) : LevelObservation :=
  { o with
    spot := o.spot.map (· + b)
    levels := fun kind => (o.levels kind).map (· + b)
    spxLevels := o.levels
    triggerCoordinateKind := "es_equivalent"
    triggerBasisPoints := some b }

theorem OfficialCash.shown (h : OfficialCash o) (b : ℚ) :
    SameMarket (esFeed b) (shownInEs b o) o where
  at' := rfl
  spot := rfl
  es := rfl
  levels := fun _ => rfl
  qualityOk := rfl
  armAllowed := rfl
  sessionDate := rfl
  rth := h.rth
  rth' := h.rth
  kind := rfl
  kind' := h.kind
  proxied := fun _ => ⟨rfl, fun _ => rfl⟩

theorem officialCash_cashTick (at' : Instant) (spot es : ℚ) (levels : Levels) :
    OfficialCash (cashTick at' spot es levels) := ⟨rfl, rfl⟩

theorem sameMarket_shown {cash : List LevelObservation} (h : ∀ o ∈ cash, OfficialCash o) (b : ℚ) :
    List.Forall₂ (SameMarket (esFeed b)) (cash.map (shownInEs b)) cash := by
  rw [forall₂_map_left_iff, forall₂_same]
  exact fun o ho => (h o ho).shown b

def flipApproach : List LevelObservation :=
  [cashTick (seconds 0) 7392 7432 (publish .flipLow 7390)]

/-- The flip is crossed on the first cash observation. -/
def flipCrossed : LevelObservation := cashTick (seconds 5) 7387 7427 (publish .flipLow 7390)

/-- Cash SPX comes back while the flip is tested, and the event goes on to its break. -/
theorem coordinate_upgrade_transparent_flip : Agrees
        (advanceLevelDecision (stateOver {} (flipApproach.map (shownInEs 40) ++ [])) flipCrossed
          {})
        (advanceLevelDecision (stateOver {} (flipApproach ++ [])) flipCrossed {}) ∧
      (advanceLevelDecision (stateOver {} (flipApproach.map (shownInEs 40))) flipCrossed
        {}).currentPhase = .breakPending := by
  have hcash : ∀ o ∈ flipApproach, OfficialCash o := by simp [flipApproach, officialCash_cashTick]
  have hafter : ∀ o ∈ [flipCrossed], OfficialCash o := by simp [flipCrossed, officialCash_cashTick]
  have hpriced : (∀ o ∈ flipApproach, PricedIn (esFeed 40) o) ∧
      ∀ o ∈ [flipCrossed], PricedIn cashFeed o := by
    simp [flipApproach, flipCrossed, PricedIn, cashTick, esFeed, cashFeed]
    norm_num
  have hsplit : [flipCrossed] = [] ++ flipCrossed :: [] := rfl
  refine ⟨(coordinate_upgrade_transparent {} 40 (sameMarket_shown hcash 40) hafter hpriced hsplit
    fun past hpast => ?_).1, by decide +kernel⟩
  rw [prefix_nil.mp hpast]
  decide +kernel

/-! ## A price of zero -/

/-- Cash SPX falls through a flip to zero. -/
def zeroDip : List LevelObservation :=
  [cashTick (seconds 0) 5 45 (publish .flipLow 3), cashTick (seconds 1) 0 40 (publish .flipLow 3),
    cashTick (seconds 25) 0 39 (publish .flipLow 3)]

def zeroAfter : LevelObservation := cashTick (seconds 26) 0 39 (publish .flipLow 3)

/-- A confirmation that starts at zero in cash SPX counts as none there and as one in ES, where the
break is therefore accepted earlier. -/
theorem zero_price_visible :
    List.Forall₂ (SameMarket (esFeed 40)) (zeroDip.map (shownInEs 40)) zeroDip ∧
      OfficialCash zeroAfter ∧
      (stateOver {} (zeroDip.map (shownInEs 40))).any LevelState.active ∧
      ¬Agrees (advanceLevelDecision (stateOver {} (zeroDip.map (shownInEs 40))) zeroAfter {})
        (advanceLevelDecision (stateOver {} zeroDip) zeroAfter {}) := by
  refine ⟨sameMarket_shown ?_ 40, officialCash_cashTick .., by decide +kernel, fun h => ?_⟩
  · simp [zeroDip, officialCash_cashTick]
  · exact absurd h.phase (by decide +kernel)

end SpxSpark.OrderMap
