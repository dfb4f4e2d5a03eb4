import SpxSpark.Ibkr.PinOwnership

/-!
# CollectorRuns — runs of the collector: line ownership and the option ceiling

A run starts once the base lane is subscribed. Its steps are the operations of the lanes, each with
the broker's answers, and what the broker says between two operations.
-/

namespace SpxSpark.Ibkr

open Lib

/-! ## Runs -/

inductive Operation
  | reconcileOptionPlan (plan : OptionSubscriptionPlan)
  | rotateOptions (now : ℚ)
  | ensureSpyOptionPlan (reading : SpyReading)
  | advanceSlowPoll (reading : SlowReading)
  | reconcileExactLegDemand (reading : DemandReading)

def Operation.run (settings : StreamSettings) : Operation → CollectorOp Unit
  | .reconcileOptionPlan plan => do
      let _ ← Ibkr.reconcileOptionPlan settings plan
      pure ()
  | .rotateOptions now => Ibkr.rotateOptions settings now
  | .ensureSpyOptionPlan reading => Ibkr.ensureSpyOptionPlan settings reading
  | .advanceSlowPoll reading => Ibkr.advanceSlowPoll reading
  | .reconcileExactLegDemand reading => do
      let _ ← Ibkr.reconcileExactLegDemand settings reading
      pure ()

/-- An operation with the broker's side of its exchanges, or an event between two operations. -/
inductive StreamStep
  | operation (op : Operation) (script : List Course)
  | event (event : BrokerEvent)

def setScript (script : List Course) (w : Collector) : Collector :=
  { w with link := { w.link with script := script } }

def streamStep (settings : StreamSettings) (w : Collector) : StreamStep → Unit × Collector
  | .operation op script => ((), (op.run settings).final (setScript script w))
  | .event event => ((), { w with link := w.link.receive event })

/-- The collector once `subscribe_base` is done. -/
def started (settings : StreamSettings) (now : ℚ) (script : List Course) : Collector :=
  (subscribeBase settings now).final (setScript script {})

variable {settings : StreamSettings} {bounded : Prop} {w : Collector} {now : ℚ}
  {script : List Course} {evs : List (StreamStep × Unit)}

theorem started_owned : Owned settings bounded (started settings now script) := by
  have hfresh : Fresh (setScript script {}) :=
    ⟨fun _ => rfl, rfl, ⟨nofun, nofun, nofun, nofun, nofun⟩, rfl⟩
  exact Effect.wp_final (conseq (subscribeBase_owned hfresh)
    fun _ _ ht => ht)

/-- What a run is restricted to where the ceiling is claimed: a plan fits next to the pins, and
what a release may leave fits. -/
def stepFits (settings : StreamSettings) (w : Collector) : StreamStep → Prop
  | .operation (.reconcileOptionPlan plan) _ => refreshFits settings plan w
  | .operation (.reconcileExactLegDemand reading) _ => demandFits settings reading w
  | _ => True

instance (settings : StreamSettings) (w : Collector) :
    (step : StreamStep) → Decidable (stepFits settings w step)
  | .operation (.reconcileOptionPlan _) _ => inferInstanceAs (Decidable (refreshFits _ _ _))
  | .operation (.reconcileExactLegDemand _) _ => inferInstanceAs (Decidable (_ → releaseFits _ _))
  | .operation (.rotateOptions _) _ => .isTrue trivial
  | .operation (.ensureSpyOptionPlan _) _ => .isTrue trivial
  | .operation (.advanceSlowPoll _) _ => .isTrue trivial
  | .event _ => .isTrue trivial

theorem streamStep_owned {step : StreamStep} (hfits : bounded → stepFits settings w step)
    (h : Owned settings bounded w) : Owned settings bounded (streamStep settings w step).2 := by
  cases step with
  | event event => exact (Within.refl.onLink _).owned (Settled.receive event h)
  | operation op script =>
    have hset : Owned settings bounded (setScript script w) :=
      (Within.refl.onLink _).owned (h.of_eq rfl rfl rfl rfl le_rfl h.book.tracked id)
    show Owned settings bounded ((op.run settings).final (setScript script w))
    refine Effect.wp_final ?_
    cases op with
    | reconcileOptionPlan plan =>
      refine (Effect.wp_bind _ _).mpr ?_
      exact conseq (reconcileOptionPlan_owned hfits hset) fun _ _ ht => ht
    | rotateOptions now => exact rotateOptions_owned hset
    | ensureSpyOptionPlan reading => exact ensureSpyOptionPlan_owned hset
    | advanceSlowPoll reading => exact advanceSlowPoll_owned hset
    | reconcileExactLegDemand reading =>
      refine (Effect.wp_bind _ _).mpr ?_
      exact conseq (reconcileExactLegDemand_owned hfits hset) fun _ _ ht => ht

/-! ## A pinned spread and a plan of two lines -/

def twoLineSettings : StreamSettings where
  baseContracts := ["index:SPX"]
  baseContracts_nodup := by decide
  slowPollLabels := []
  slowPollChunkSize := 1
  slowPollIntervalSeconds := 300
  slowPollHoldSeconds := 10
  maxOptionLines := 2
  spyOptionLines := 0
  spyStrikeStep := 2

def pinnedSpread : ExactLegQuoteDemand where
  demandId := "spread"
  sessionDate := "2024-06-03"
  validUntil := 1000
  longLeg := ⟨.spxw "20240603" 5000 .call, "20240603", 5000, .call⟩
  shortLeg := ⟨.spxw "20240603" 5010 .call, "20240603", 5010, .call⟩
  legs_distinct := by decide

def pinReading : DemandReading where
  now := 0
  expectedSession := "2024-06-03"
  revision := some (1, 1)
  demand := .ok pinnedSpread
  beforeRelease := ⟨0, some (1, 1), "2024-06-03"⟩
  beforeCommit := ⟨0, some (1, 1), "2024-06-03"⟩

def pairPlan : OptionSubscriptionPlan where
  atmStrike := 5050
  expiry := "20240603"
  hot := [⟨"20240603", 5050, .call⟩, ⟨"20240603", 5050, .put⟩]
  rotations := []
  slice_nodup := nofun
  slice_cold := nofun

/-! ## Ownership -/

/-- In a state without a flag, lanes share no label, an open line is recorded in one lane, and a
recorded line that stands is open or was rejected by the broker. -/
theorem lines_recorded_once
    (hrun : Run (streamStep settings) anyStep (started settings now script) evs w)
    (hhealth : w.link.subscriptionHealthFailed = false)
    (hlost : w.link.subscriptionsLost = false) :
    (∀ a b, a ≠ b → Disjoint (w.lanes a).keySet (w.lanes b).keySet) ∧
      (∀ line ∈ w.link.lines, ∃! lane, line.label ∈ w.lanes lane) ∧
      ∀ lane label sub, (w.lanes lane).lookup label = some sub →
        w.link.subscribedRow sub = true → ∃ line, line.label = label ∧
          (line ∈ w.link.lines ∨ line ∈ w.link.rejectedLines) := by
  have howned : Owned settings False w :=
    hrun.invariant (I := fun w => Owned settings False w) started_owned fun _ _ h _ =>
      streamStep_owned False.elim h
  have hclear : ¬ Flagged w.link := by
    rintro (h | h)
    · rw [hhealth] at h
      cases h
    · rw [hlost] at h
      cases h
  obtain ⟨⟨hfacts, -⟩, haccounts⟩ := howned.clear hclear
  refine ⟨fun a b hne => Finset.disjoint_left.mpr fun label ha hb => ?_, fun line hline => ?_,
    fun lane label sub hlookup hstands => ?_⟩
  · exact hne ((hfacts.home (Dict.mem_keySet.mp ha)).symm.trans
      (hfacts.home (Dict.mem_keySet.mp hb)))
  · obtain ⟨sub, row, ⟨lane, -, hsub⟩, -⟩ := haccounts.covered hline
    refine ⟨lane, mem_of_holds hsub, fun other hother => ?_⟩
    exact (hfacts.home hother).symm.trans (hfacts.home (mem_of_holds hsub))
  · unfold Link.subscribedRow at hstands
    cases hrow : w.link.rows[sub.row]? with
    | none =>
      rw [hrow] at hstands
      cases hstands
    | some row =>
      rw [hrow] at hstands
      obtain ⟨line, hlabel, -, hopen⟩ :=
        haccounts.standing ⟨lane, List.not_mem_nil, hlookup⟩ hrow hstands
      exact ⟨line, hlabel, hopen⟩

/-- A plan, a pin that preempts its two lines, and the release that asks for them again. -/
def planPinRelease : List StreamStep :=
  [.operation (.reconcileOptionPlan pairPlan) [],
    .operation (.reconcileExactLegDemand pinReading) [],
    .operation (.reconcileExactLegDemand
      { pinReading with revision := some (2, 1), demand := .error .tombstone }) []]

def afterPlanPinRelease : Collector :=
  (play (streamStep twoLineSettings) (started twoLineSettings 0 []) planPinRelease).2

theorem planPinRelease_quiet : afterPlanPinRelease.link.subscriptionHealthFailed = false ∧
      afterPlanPinRelease.link.subscriptionsLost = false := by decide +kernel

theorem lines_recorded_once_after_release :
    (∀ a b, a ≠ b → Disjoint (afterPlanPinRelease.lanes a).keySet
        (afterPlanPinRelease.lanes b).keySet) ∧
      (∀ line ∈ afterPlanPinRelease.link.lines, ∃! lane,
        line.label ∈ afterPlanPinRelease.lanes lane) ∧
      ∀ lane label sub, (afterPlanPinRelease.lanes lane).lookup label = some sub →
        afterPlanPinRelease.link.subscribedRow sub = true → ∃ line, line.label = label ∧
          (line ∈ afterPlanPinRelease.link.lines ∨
            line ∈ afterPlanPinRelease.link.rejectedLines) := by
  have hallowed : Allowed (streamStep twoLineSettings) anyStep (started twoLineSettings 0 [])
      planPinRelease := allowed_anyStep planPinRelease _
  exact lines_recorded_once (Run.play hallowed) planPinRelease_quiet.1 planPinRelease_quiet.2

/-! ## The ceiling -/

/-- In a run whose plans fit next to the pins, and whose releases fit, the option lanes keep the
ceiling in every state without a flag. -/
theorem option_lines_within_ceiling
    (hrun : Run (streamStep settings) (stepFits settings) (started settings now script) evs w)
    (hhealth : w.link.subscriptionHealthFailed = false)
    (hlost : w.link.subscriptionsLost = false) :
    lineCount w optionLanes ≤ settings.maxOptionLines := by
  have howned : Owned settings True w :=
    hrun.invariant (I := fun w => Owned settings True w) started_owned fun _ _ h hfits =>
      streamStep_owned (fun _ => hfits) h
  have hclear : ¬ Flagged w.link := by
    rintro (h | h)
    · rw [hhealth] at h
      cases h
    · rw [hlost] at h
      cases h
  exact (howned.clear hclear).1.2 trivial

theorem planPinRelease_fits : Allowed (streamStep twoLineSettings) (stepFits twoLineSettings)
    (started twoLineSettings 0 []) planPinRelease := by decide +kernel

theorem option_lines_within_ceiling_after_release : lineCount afterPlanPinRelease optionLanes ≤ 2 :=
  option_lines_within_ceiling (Run.play planPinRelease_fits) planPinRelease_quiet.1
    planPinRelease_quiet.2

/-- The plans of a run have at most as many hot contracts as there are option lines. -/
def plansWithin (settings : StreamSettings) (_ : Collector) : StreamStep → Prop
  | .operation (.reconcileOptionPlan plan) _ => plan.hot.length ≤ settings.maxOptionLines
  | _ => True

/-- The pin takes both lines, and a refresh then adds the two of its plan. -/
def pinThenRefresh : List StreamStep :=
  [.operation (.reconcileExactLegDemand pinReading) [],
    .operation (.reconcileOptionPlan pairPlan) []]

def afterPinThenRefresh : Collector :=
  (play (streamStep twoLineSettings) (started twoLineSettings 0 []) pinThenRefresh).2

theorem pinThenRefresh_quiet : lineCount afterPinThenRefresh optionLanes = 4 ∧
    afterPinThenRefresh.link.subscriptionHealthFailed = false ∧
      afterPinThenRefresh.link.subscriptionsLost = false := by decide +kernel

theorem ceiling_exceeded_by_refresh : ¬∀ (settings : StreamSettings) (now : ℚ)
    (script : List Course) (evs : List (StreamStep × Unit)) (w : Collector),
    Run (streamStep settings) (plansWithin settings) (started settings now script) evs w →
      w.link.subscriptionHealthFailed = false → w.link.subscriptionsLost = false →
        lineCount w optionLanes ≤ settings.maxOptionLines := by
  intro hall
  have hallowed : Allowed (streamStep twoLineSettings) (plansWithin twoLineSettings)
      (started twoLineSettings 0 []) pinThenRefresh := ⟨trivial, le_refl 2, trivial⟩
  have hfour := hall _ _ _ _ _ (Run.play hallowed) pinThenRefresh_quiet.2.1
    pinThenRefresh_quiet.2.2
  have hlines := pinThenRefresh_quiet.1
  unfold afterPinThenRefresh at hlines
  rw [hlines] at hfour
  exact absurd hfour (by decide)

end SpxSpark.Ibkr
