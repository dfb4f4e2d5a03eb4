import Mathlib.Data.List.DropRight
import Mathlib.Data.List.MinMax
import SpxSpark.Lib.Run
import SpxSpark.OrderMap.RthEnvironment

/-!
# PinAssessment — where the close is pinned, and how long it has been there

The strikes that hold local mass are ranked by a score, and the first is the center, or the center
of the decision before while the challenger leads by too little.
-/

namespace SpxSpark.OrderMap.Pin

open Lib (Run anyStep play run_play)
open List
open RthEnvironment (SessionMode TerminalState)

/-- What the pin reads of `StrategyPolicy`, with its defaults; first those in `pin_thresholds`. -/
structure StrategyPolicy where
  erMax : ℚ := 1 / 4
  drift30Max : ℚ := 5 / 2
  drift60Max : ℚ := 5
  migrate30 : ℚ := 5
  migrate60 : ℚ := 8
  stableRisk : ℚ := 35 / 100
  blockRisk : ℚ := 55 / 100
  stableMaxMinutesToClose : ℚ := 300
  stableEnterMinExcursions : Nat := 2
  stableHoldMinExcursions : Nat := 1
  lookMinExcursions : Nat := 1
  lookMinMinutes : ℚ := 180
  lookMaxMinutes : ℚ := 300
  qModeHoldMaxDistancePoints : ℚ := 5
  centerHoldMaxDistancePoints : ℚ := 10
  centerSwitchMinScoreMargin : ℚ := 5 / 100
  centerMinConfirmationSnapshots : Int := 3
  centerMinDwellSeconds : ℚ := 600
  bodyMaxCenterDistancePoints : ℚ := 5

/-- `math.exp`, and what is made of the key of a strike: `float(key)`, whether it is digits with at
most one point, and `f"{center:g}"`. -/
structure Numerics where
  exp : ℚ → ℚ
  float : String → Option ℚ
  isDigits : String → Bool
  general : ℚ → String

/-- What one decision is made from, beside the decision before it. -/
structure PinFacts where
  decisionAt : Instant
  sessionDate : Option String
  mode : SessionMode
  minutesToClose : Option Int
  efficiencyRatio30m : Option ℚ
  breadthAboveVwap : Option ℚ
  pinPathSpx : List ℚ
  spx15m : Option ℚ
  spx30m : Option ℚ
  spx60m : Option ℚ
  atmStraddleDecay15m : Option ℚ
  vixReturn15mPct : Option ℚ
  zeroGamma : Option ℚ
  putWall : Option ℚ
  callWall : Option ℚ
  flipZone : List ℚ
  /-- `q_local_mass_5pt`, with `none` for a value that is no number. -/
  mass : List (String × Option ℚ)
  shockState : String

/-- `_pin_latch_fact`, unless it is empty. -/
structure PinLatch where
  terminalState : TerminalState
  center : ℚ
  sessionDate : String
  decisionAt : Instant
  qMode : Option ℚ
  centerConfirmationCount : Option Nat
  centerFirstSeenAt : Option Instant

structure CenterRow where
  center : ℚ
  score : ℚ
  excursionReturns : Nat

inductive PinGrade
  | migrating | stable | look | none
  deriving DecidableEq

inductive QModeSource
  | missing | localMass | localMassHeld

inductive CenterSource
  | currentScore | previousCenterScoreMarginHold

inductive ConfirmationReason
  | pinNotStable | snapshotPending | dwellPending | confirmed

/-- The mapping that is returned, with `none`, `[]` and `false` for a key that it does not have;
what it copies from the policy is left out. -/
structure PinAssessment where
  terminalState : TerminalState
  reason : Option String := none
  depinRisk : Option ℚ := none
  drift30m : Option ℚ := none
  drift60m : Option ℚ := none
  recentExtremeAcceptance : Bool := false
  qMode : Option ℚ := none
  qModeSource : Option QModeSource := none
  grade : Option PinGrade := none
  center : Option ℚ := none
  rawLeaderCenter : Option ℚ := none
  centerSource : Option CenterSource := none
  centerConfirmationCount : Option Nat := none
  centerFirstSeenAt : Option Instant := none
  centerConfirmationAgeSeconds : Option ℚ := none
  centerConfirmationReady : Bool := false
  centerConfirmationReason : Option ConfirmationReason := none
  excursionHeld : Bool := false
  topCenters : List CenterRow := []

/-- A decision, whose regime has the terminal state of its pin. -/
structure Decision where
  decisionAt : Instant
  sessionDate : Option String
  pin : PinAssessment

/-! ## Centers of a decision -/

def PinAssessment.topCenter (pin : PinAssessment) : Option ℚ := pin.topCenters.head?.map (·.center)

def Decision.pinTradeCenter (decision : Decision) : Option ℚ :=
  if decision.pin.terminalState = .pinStable ∧ decision.pin.centerConfirmationReady then
    decision.pin.topCenter
  else none

def Decision.pinWatchCenter (decision : Decision) : Option ℚ :=
  if decision.pin.terminalState ≠ .pinStable ∧ decision.pin.grade ≠ some .look then none
  else decision.pin.topCenter

/-- `_pin_latch_fact` for the session of the facts. -/
def pinLatchFact (previous : Option Decision) (sessionDate : Option String) : Option PinLatch :=
  match previous, sessionDate with
  | some decision, some date =>
    if date = "" ∨ decision.sessionDate.getD "" ≠ date then none
    else if decision.pin.terminalState ∉ [.pinStable, .none] ∨
        decision.pin.terminalState = .none ∧ decision.pin.grade ≠ some .look then none
    else decision.pinWatchCenter.map fun center =>
      { terminalState := decision.pin.terminalState, center, sessionDate := date
        decisionAt := decision.decisionAt, qMode := decision.pin.qMode
        centerConfirmationCount := decision.pin.centerConfirmationCount
        centerFirstSeenAt := decision.pin.centerFirstSeenAt }
  | _, _ => none

/-! ## Ingredients of the assessment -/

/-- `_excursion_returns`, with whether the path is away. -/
def excursion (center : ℚ) (state : Bool × Nat) (value : ℚ) : Bool × Nat :=
  if 5 ≤ |value - center| then (true, state.2)
  else if state.1 ∧ |value - center| ≤ 5 / 2 then (false, state.2 + 1)
  else state

def excursionReturns (values : List ℚ) (center : ℚ) : Nat :=
  (values.foldl (excursion center) (false, 0)).2

/-- Two centers match. -/
def sameCenter (a b : ℚ) : Bool := |a - b| ≤ 1 / 100

section

variable (numerics : Numerics) (policy : StrategyPolicy) (facts : PinFacts)
  (latch : Option PinLatch)

/-- `_mass_ranked_centers`. -/
def massRankedCenters : List ℚ :=
  let weighted := facts.mass.filterMap fun (key, value) => do
    pure (← numerics.float key, ← value)
  (weighted.insertionSort fun a b => b.2 ≤ a.2).map Prod.fst

def pinQMode : Option ℚ × QModeSource :=
  let ranked := massRankedCenters numerics facts
  match ranked.head?, latch.filter (·.terminalState = .pinStable) with
  | none, _ => (none, .missing)
  | some peak, none => (some peak, .localMass)
  | some peak, some latch =>
    let held := latch.qMode.filter fun previous =>
      |previous - peak| ≤ policy.qModeHoldMaxDistancePoints ∧
        (ranked.take 2).any (sameCenter · previous) ∧ 1 / 100 < |previous - peak|
    match held with
    | some previous => (some previous, .localMassHeld)
    | none => (some peak, .localMass)

/-- `_pin_stable_hold`, over the centers with the returns to each. -/
def pinStableHold (returns : List (ℚ × Nat)) : Bool :=
  latch.any fun latch => latch.terminalState = .pinStable ∧
    latch.sessionDate = facts.sessionDate.getD "" ∧
    returns.any fun (center, count) =>
      |center - latch.center| ≤ policy.bodyMaxCenterDistancePoints ∧
        policy.stableHoldMinExcursions ≤ count

def pinLookWindow : Bool :=
  facts.minutesToClose.any fun minutes =>
    policy.lookMinMinutes ≤ (minutes : ℚ) ∧ (minutes : ℚ) ≤ policy.lookMaxMinutes

/-- `required`, once all of it is there. -/
structure Inputs where
  er : ℚ
  vc15 : ℚ
  vc30 : ℚ
  vc60 : ℚ
  qMode : ℚ
  decay : ℚ
  breadth : ℚ
  vix : ℚ

def PinFacts.inputs (qMode : Option ℚ) : Option Inputs := do
  pure ⟨← facts.efficiencyRatio30m, ← facts.spx15m, ← facts.spx30m, ← facts.spx60m, ← qMode,
    ← facts.atmStraddleDecay15m, ← facts.breadthAboveVwap, ← facts.vixReturn15mPct⟩

/-- The last of the path is its high or low of four, at least five points from where it was. -/
def PinFacts.extreme : Bool :=
  let last := facts.pinPathSpx.rtake 4
  match last with
  | [first, _, _, close] => 5 ≤ |close - first| ∧ (last.all (close ≤ ·) ∨ last.all (· ≤ close))
  | _ => false

def PinFacts.refs : List ℚ :=
  [facts.zeroGamma, facts.putWall, facts.callWall].reduceOption ++
    match facts.flipZone with
    | low :: high :: _ => [(low + high) / 2]
    | _ => []

variable (inputs : Inputs)

def Inputs.drift30 : ℚ := inputs.vc15 - inputs.vc30

def Inputs.drift60 : ℚ := inputs.vc15 - inputs.vc60

/-- How far the value centers drift, against what is far. -/
def Inputs.drift : ℚ := max (|inputs.drift30| / 5) (|inputs.drift60| / 8)

def depinRisk : ℚ :=
  min 1 (1 / 4 * inputs.drift + 1 / 5 * min (inputs.er / (4 / 10)) 1 +
    1 / 5 * (|inputs.breadth - 1 / 2| * 2) + 15 / 100 * min (max inputs.vix 0 / (1 / 100)) 1 +
    (if facts.extreme then 1 / 10 else 0) + 1 / 10 * min (max (-inputs.decay) 0 / (5 / 100)) 1)

def centerScore (maxMass mass center : ℚ) (returns : Nat) : ℚ :=
  let nearest := ((facts.refs.map fun value => |center - value|).min?).getD 30
  roundTo 4 (1 / 4 * numerics.exp (-nearest / 5) +
    1 / 4 * (1 / 2 * numerics.exp (-|center - inputs.vc30| / 5) +
      1 / 2 * numerics.exp (-|center - inputs.vc60| / (15 / 2))) +
    1 / 5 * mass / maxMass + 15 / 100 * [0, 4 / 10, 7 / 10].getD returns 1 +
    (if 0 < inputs.decay then 1 / 10 else 0) - 1 / 4 * min inputs.drift 1 -
    1 / 5 * depinRisk facts inputs)

/-- The rows from the highest score on; `none` where a key or a value of the mass is not what it
should be and an exception is raised. -/
def rankedRows (centers : List ℚ) : Option (List CenterRow) := do
  let values ← facts.mass.mapM (·.2)
  let highest := (values.max?).getD 0
  let maxMass := if highest = 0 then 1 else highest
  let rows ← centers.mapM fun center => do
    let mass ← (← facts.mass.lookup (numerics.general center))
    let returns := excursionReturns facts.pinPathSpx center
    pure ⟨center, centerScore numerics facts inputs maxMass mass center returns, returns⟩
  pure (rows.insertionSort fun a b => b.score ≤ a.score)

/-- The row of the previous center goes first where the leader is near it and not far ahead. -/
def holdCenter (ranked : List CenterRow) : List CenterRow × CenterSource :=
  match ranked, latch with
  | leader :: _, some latch =>
    match ranked.find? (sameCenter ·.center latch.center) with
    | some previous =>
      if ¬sameCenter leader.center latch.center ∧
          |leader.center - latch.center| ≤ policy.centerHoldMaxDistancePoints ∧
          leader.score - previous.score < policy.centerSwitchMinScoreMargin then
        (previous :: ranked.eraseP (sameCenter ·.center latch.center),
          .previousCenterScoreMarginHold)
      else (ranked, .currentScore)
    | none => (ranked, .currentScore)
  | _, _ => (ranked, .currentScore)

structure Confirmation where
  count : Nat
  firstSeenAt : Instant
  age : ℚ
  ready : Bool
  reason : ConfirmationReason

/-- How often and how long the selected center has been seen in a row. -/
def confirmCenter (now : Instant) (terminal : TerminalState) (selected : Option ℚ) :
    Confirmation :=
  let kept := latch.filter fun latch => selected.any (sameCenter · latch.center)
  let count : Nat := match kept with
    | some latch => ((latch.centerConfirmationCount.filter (· ≠ 0)).getD 1) + 1
    | none => if selected.isSome then 1 else 0
  let firstSeenAt := match kept with
    | some latch => latch.centerFirstSeenAt.getD latch.decisionAt
    | none => now
  let age := max (secondsBetween now firstSeenAt) 0
  let often : Bool := policy.centerMinConfirmationSnapshots ≤ (count : Int)
  let long : Bool := policy.centerMinDwellSeconds ≤ age
  { count, firstSeenAt, age
    ready := terminal = .pinStable ∧ often ∧ long
    reason := if terminal ≠ .pinStable then .pinNotStable
      else if ¬often then .snapshotPending
      else if ¬long then .dwellPending
      else .confirmed }

/-! ## The assessment -/

/-- `terminal` and `grade`, with whether the pin is stable by an excursion that is held. -/
def gradePin (returns : List (ℚ × Nat)) : (TerminalState × PinGrade) × Bool :=
  let extreme := facts.extreme
  let depin := depinRisk facts inputs
  let gamma := facts.refs.argmin fun value => |value - inputs.qMode|
  let migrating := policy.migrate30 < |inputs.drift30| ∨ policy.migrate60 < |inputs.drift60| ∨
    4 / 10 < inputs.er ∨ extreme
  let aligned := gamma.any fun gamma => max (max inputs.qMode inputs.vc30) gamma -
    min (min inputs.qMode inputs.vc30) gamma ≤ 5
  let excursions := ((returns.map Prod.snd).max?).getD 0
  let held := pinStableHold policy facts latch returns
  let stable := facts.minutesToClose.any (fun minutes =>
      (minutes : ℚ) ≤ policy.stableMaxMinutesToClose) ∧
    inputs.er < policy.erMax ∧ |inputs.drift30| ≤ policy.drift30Max ∧
    |inputs.drift60| ≤ policy.drift60Max ∧
    (policy.stableEnterMinExcursions ≤ excursions ∨
      held ∧ policy.stableHoldMinExcursions ≤ excursions) ∧
    inputs.vix ≤ 1 / 100 ∧ ¬extreme ∧ aligned ∧ 0 < inputs.decay ∧ depin < policy.stableRisk
  let look := facts.mode ≠ .gth ∧ ¬migrating ∧ depin < policy.blockRisk ∧
    policy.lookMinExcursions ≤ excursions ∧ pinLookWindow policy facts
  (if migrating ∨ policy.blockRisk ≤ depin then (.pinMigrating, .migrating)
    else if stable then (.pinStable, .stable)
    else if look then (.none, .look)
    else (.none, .none),
    held ∧ stable ∧ excursions < policy.stableEnterMinExcursions)

/-- `_pin_assessment`; `none` where it raises. -/
def pinAssessment : Option PinAssessment :=
  let (qMode, qModeSource) := pinQMode numerics policy facts latch
  match facts.inputs qMode with
  | none => some { terminalState := .uncertain, reason := some "pin_inputs_unavailable" }
  | some inputs =>
    if facts.pinPathSpx.length < 4 ∨ facts.mass = [] then
      some { terminalState := .uncertain, reason := some "pin_inputs_unavailable" }
    else if facts.shockState ∈ ["ACTIVE", "POST_SHOCK_DISCOVERY"] then
      some { terminalState := .none, depinRisk := some 1
             reason := some ("shock_" ++ facts.shockState.toLower) }
    else do
      let centers ← (facts.mass.filter (numerics.isDigits ·.1)).mapM (numerics.float ·.1)
      let ranking ← rankedRows numerics facts inputs centers
      let (ranked, centerSource) := holdCenter policy latch ranking
      let ((terminalState, grade), excursionHeld) := gradePin policy facts latch inputs
        (centers.map fun center => (center, excursionReturns facts.pinPathSpx center))
      let center := ranked.head?.map (·.center)
      let confirmation := confirmCenter policy latch facts.decisionAt terminalState center
      pure
        { terminalState, grade := some grade, excursionHeld, center
          depinRisk := some (roundTo 4 (depinRisk facts inputs))
          drift30m := some (roundTo 2 inputs.drift30)
          drift60m := some (roundTo 2 inputs.drift60)
          recentExtremeAcceptance := facts.extreme
          qMode, qModeSource := some qModeSource
          rawLeaderCenter := ranking.head?.map (·.center)
          centerSource := some centerSource
          centerConfirmationCount := some confirmation.count
          centerFirstSeenAt := some confirmation.firstSeenAt
          centerConfirmationAgeSeconds := some (roundTo 3 confirmation.age)
          centerConfirmationReady := confirmation.ready
          centerConfirmationReason := some confirmation.reason
          topCenters := ranked.take 3 }

/-- The decision that follows another, which `_pin_latch_fact` is taken from. -/
def decide (previous : Option Decision) : Option Decision :=
  (pinAssessment numerics policy facts (pinLatchFact previous facts.sessionDate)).map fun pin =>
    ⟨facts.decisionAt, facts.sessionDate, pin⟩

/-- A call after the decisions of a run, which stand from the newest on. Where it comes to none, the
run stays as it is. -/
def step (run : List Decision) (facts : PinFacts) : Option Decision × List Decision :=
  let decision := decide numerics policy facts run.head?
  (decision, decision.toList ++ run)

/-- Every decision follows the one before it. -/
def Decided (run : List Decision) : Prop :=
  ∀ decision past, decision :: past <:+ run →
    ∃ facts, decide numerics policy facts past.head? = some decision

end

/-! ## What one assessment says -/

variable {numerics : Numerics} {policy : StrategyPolicy} {facts : PinFacts}
  {latch : Option PinLatch} {pin : PinAssessment} {decision earlier : Decision}
  {past : List Decision}

/-- An assessment that ranks centers. -/
structure Ranked (policy : StrategyPolicy) (latch : Option PinLatch) (now : Instant)
    (pin : PinAssessment) : Prop where
  count : pin.centerConfirmationCount =
    some (confirmCenter policy latch now pin.terminalState pin.topCenter).count
  firstSeenAt : pin.centerFirstSeenAt =
    some (confirmCenter policy latch now pin.terminalState pin.topCenter).firstSeenAt
  ready : pin.centerConfirmationReady =
    (confirmCenter policy latch now pin.terminalState pin.topCenter).ready
  graded : (pin.terminalState, pin.grade) ∈ [(.pinMigrating, some .migrating),
    (.pinStable, some .stable), (.none, some .look), (.none, some .none)]

variable (policy facts latch) in
theorem gradePin_cases (inputs : Inputs) (returns : List (ℚ × Nat)) :
    (gradePin policy facts latch inputs returns).1 ∈
      [(.pinMigrating, .migrating), (.pinStable, .stable), (.none, .look), (.none, .none)] := by
  unfold gradePin
  dsimp only
  split
  · simp
  split
  · simp
  split <;> simp

theorem pinAssessment_cases (h : pinAssessment numerics policy facts latch = some pin) :
    pin.topCenters = [] ∧ pin.centerConfirmationCount = none ∨
      Ranked policy latch facts.decisionAt pin := by
  unfold pinAssessment at h
  dsimp only at h
  split at h
  · cases h
    exact .inl ⟨rfl, rfl⟩
  rename_i inputs _
  split at h
  · cases h
    exact .inl ⟨rfl, rfl⟩
  split at h
  · cases h
    exact .inl ⟨rfl, rfl⟩
  simp only [Option.bind_eq_bind, Option.bind_eq_some_iff, Option.pure_def] at h
  obtain ⟨centers, -, ranking, -, h⟩ := h
  have hgraded := gradePin_cases policy facts latch inputs
    (centers.map fun center => (center, excursionReturns facts.pinPathSpx center))
  generalize gradePin policy facts latch inputs _ = graded at h hgraded
  generalize (holdCenter policy latch ranking).1 = ranked at h
  have hhead : ranked.head? = (ranked.take 3).head? := by cases ranked <;> rfl
  obtain ⟨⟨terminal, grade⟩, held⟩ := graded
  rw [hhead] at h
  cases h
  exact .inr ⟨rfl, rfl, rfl, by simpa using hgraded⟩

variable {terminal : TerminalState} {now : Instant}

theorem confirmCenter_kept {latch : PinLatch} {center : ℚ} (h : sameCenter center latch.center) :
    (confirmCenter policy (some latch) now terminal (some center)).count =
        (latch.centerConfirmationCount.filter (· ≠ 0)).getD 1 + 1 ∧
      (confirmCenter policy (some latch) now terminal (some center)).firstSeenAt =
        latch.centerFirstSeenAt.getD latch.decisionAt := by
  simp [confirmCenter, Option.filter, h]

theorem confirmCenter_restarts {selected : Option ℚ}
    (h : ∀ kept ∈ latch, ∀ center ∈ selected, ¬sameCenter center kept.center) :
    (confirmCenter policy latch now terminal selected).count = (if selected.isSome then 1 else 0) ∧
      (confirmCenter policy latch now terminal selected).firstSeenAt = now := by
  have hkept : latch.filter (fun kept => selected.any (sameCenter · kept.center)) = none := by
    cases latch with
    | none => rfl
    | some kept =>
      cases selected with
      | none => rfl
      | some center => simp [Option.filter, h kept rfl center rfl]
  simp [confirmCenter, hkept]

theorem watchCenter_topCenter {center : ℚ} (h : center ∈ decision.pinWatchCenter) :
    decision.pin.topCenter = some center := by
  unfold Decision.pinWatchCenter at h
  split at h
  · cases h
  · exact h

theorem pinLatchFact_some {previous : Option Decision} {date : Option String} {latch : PinLatch}
    (h : latch ∈ pinLatchFact previous date) : ∃ earlier ∈ previous, earlier.sessionDate = date ∧
      latch.center ∈ earlier.pinWatchCenter ∧
      latch.centerConfirmationCount = earlier.pin.centerConfirmationCount ∧
      latch.centerFirstSeenAt = earlier.pin.centerFirstSeenAt := by
  unfold pinLatchFact at h
  split at h
  · rename_i earlier date
    split at h
    · cases h
    rename_i hdate
    rw [not_or, not_not] at hdate
    split at h
    · cases h
    obtain ⟨center, hcenter, rfl⟩ := Option.map_eq_some_iff.mp h
    refine ⟨earlier, rfl, ?_, hcenter, rfl, rfl⟩
    cases hsession : earlier.sessionDate with
    | none => exact absurd (by simpa [hsession] using hdate.2.symm) hdate.1
    | some other => simpa [hsession] using hdate.2
  · cases h

/-! ## The streak of a center -/

/-- A decision has the session and the watched center of the one before it. -/
def Continues (later earlier : Decision) : Prop :=
  earlier.sessionDate = later.sessionDate ∧
    ∃ a ∈ later.pinWatchCenter, ∃ b ∈ earlier.pinWatchCenter, |a - b| ≤ 1 / 100

/-- The newest decisions of a run continue each other: so many, and since then. -/
def Streak (run : List Decision) (count : Nat) (since : Instant) : Prop :=
  ∃ streak older, run = streak ++ older ∧ streak.length = count ∧ streak.IsChain Continues ∧
    streak.getLast?.map Decision.decisionAt = some since

theorem Streak.single (decision : Decision) (past : List Decision) :
    Streak (decision :: past) 1 decision.decisionAt :=
  ⟨[decision], past, rfl, rfl, .singleton _, rfl⟩

theorem Streak.cons {count : Nat} {since : Instant} (h : Streak (earlier :: past) count since)
    (hcontinues : Continues decision earlier) (hcount : count ≠ 0) :
    Streak (decision :: earlier :: past) (count + 1) since := by
  obtain ⟨_ | ⟨first, streak⟩, older, hrun, rfl, hchain, hlast⟩ := h
  · exact absurd rfl hcount
  · obtain ⟨rfl, rfl⟩ := List.cons.inj hrun
    refine ⟨decision :: earlier :: streak, older, rfl, rfl, .cons_cons hcontinues hchain, ?_⟩
    rwa [getLast?_cons_cons]

theorem decided_run {log : List (PinFacts × Option Decision)} {run : List Decision}
    (h : Run (step numerics policy) anyStep [] log run) : Decided numerics policy run := by
  refine h.invariant (fun _ _ hpast => nomatch suffix_nil.mp hpast) fun run facts hrun _ => ?_
  unfold step
  cases hdecide : decide numerics policy facts run.head? with
  | none => exact hrun
  | some decision =>
    intro later past hpast
    rcases suffix_cons_iff.mp hpast with heq | hpast
    · obtain ⟨rfl, rfl⟩ := List.cons.inj heq
      exact ⟨facts, hdecide⟩
    · exact hrun later past hpast

theorem Decided.suffix {run : List Decision} (h : Decided numerics policy run)
    (hpast : past <:+ run) : Decided numerics policy past :=
  fun decision before hbefore => h decision before (hbefore.trans hpast)

theorem Decided.assessed (h : Decided numerics policy (decision :: past)) :
    decision.pin.topCenters = [] ∧ decision.pin.centerConfirmationCount = none ∨
      Ranked policy (pinLatchFact past.head? decision.sessionDate) decision.decisionAt
        decision.pin := by
  obtain ⟨facts, hdecide⟩ := h decision past suffix_rfl
  obtain ⟨pin, hpin, rfl⟩ := Option.map_eq_some_iff.mp hdecide
  exact pinAssessment_cases hpin

theorem Decided.ranked (h : Decided numerics policy (decision :: past)) {center : ℚ}
    (hcenter : decision.pin.topCenter = some center) :
    Ranked policy (pinLatchFact past.head? decision.sessionDate) decision.decisionAt
      decision.pin := by
  refine h.assessed.resolve_left fun hnone => ?_
  simp [PinAssessment.topCenter, hnone.1] at hcenter

theorem decided_streak (h : Decided numerics policy (decision :: past)) {center : ℚ}
    (hwatch : center ∈ decision.pinWatchCenter) : ∃ count since,
      decision.pin.centerConfirmationCount = some count ∧
        decision.pin.centerFirstSeenAt = some since ∧ count ≠ 0 ∧
        Streak (decision :: past) count since := by
  generalize hrun : decision :: past = run at h
  induction run generalizing decision past center with
  | nil => cases hrun
  | cons _ _ ih =>
    obtain ⟨rfl, rfl⟩ := List.cons.inj hrun
    have hcenter := watchCenter_topCenter hwatch
    have hranked := h.ranked hcenter
    have hcount := hranked.count
    have hsince := hranked.firstSeenAt
    rw [hcenter] at hcount hsince
    by_cases hsame : ∃ kept ∈ pinLatchFact past.head? decision.sessionDate,
        sameCenter center kept.center
    · obtain ⟨kept, hkept, hmatch⟩ := hsame
      obtain ⟨earlier, hearlier, hsession, hwatched, hkeptCount, hkeptSince⟩ :=
        pinLatchFact_some hkept
      obtain ⟨older, rfl⟩ := head?_eq_some_iff.mp hearlier
      obtain ⟨count, since, hprevious, hclock, hpositive, hstreak⟩ :=
        ih hwatched rfl (h.suffix (suffix_cons _ _))
      rw [Option.mem_def.mp hkept, (confirmCenter_kept hmatch).1, hkeptCount, hprevious] at hcount
      rw [Option.mem_def.mp hkept, (confirmCenter_kept hmatch).2, hkeptSince, hclock] at hsince
      have hcontinues : Continues decision earlier :=
        ⟨hsession, center, hwatch, kept.center, hwatched, of_decide_eq_true hmatch⟩
      refine ⟨_, _, hcount, hsince, by simp, ?_⟩
      simpa [Option.filter, hpositive] using hstreak.cons hcontinues hpositive
    · have hother : ∀ kept ∈ pinLatchFact past.head? decision.sessionDate, ∀ c ∈ some center,
          ¬sameCenter c kept.center := by
        rintro kept hkept c ⟨⟩ hmatch
        exact hsame ⟨kept, hkept, hmatch⟩
      rw [(confirmCenter_restarts hother).1] at hcount
      rw [(confirmCenter_restarts hother).2] at hsince
      exact ⟨1, _, hcount, hsince, by simp, .single _ _⟩

theorem chain_session {streak : List Decision} (h : (decision :: streak).IsChain Continues)
    (hwatch : decision.pinWatchCenter.isSome) : ∀ earlier ∈ decision :: streak,
      earlier.sessionDate = decision.sessionDate ∧ earlier.pinWatchCenter.isSome := by
  induction streak generalizing decision with
  | nil => simp [hwatch]
  | cons next streak ih =>
    obtain ⟨⟨hsession, _, _, center, hcenter, _⟩, hchain⟩ := isChain_cons_cons.mp h
    intro earlier hearlier
    rcases mem_cons.mp hearlier with rfl | hearlier
    · exact ⟨rfl, hwatch⟩
    · have hnext := ih hchain (Option.isSome_of_mem hcenter) earlier hearlier
      exact ⟨hnext.1.trans hsession, hnext.2⟩

theorem Decided.restarts (h : Decided numerics policy (decision :: earlier :: past))
    (hother : earlier.sessionDate = decision.sessionDate → ∀ a ∈ decision.pin.topCenter,
      ∀ b ∈ earlier.pinWatchCenter, ¬|a - b| ≤ 1 / 100) :
    ∀ count ∈ decision.pin.centerConfirmationCount, count ≤ 1 ∧
      decision.pin.centerFirstSeenAt = some decision.decisionAt := by
  intro count hcount
  rcases h.assessed with ⟨-, hnone⟩ | hranked
  · cases hnone.symm.trans hcount
  · have hstart : ∀ kept ∈ pinLatchFact (earlier :: past).head? decision.sessionDate,
        ∀ center ∈ decision.pin.topCenter, ¬sameCenter center kept.center := by
      intro kept hkept center hcenter hmatch
      obtain ⟨_, ⟨⟩, hsession, hwatched, -⟩ := pinLatchFact_some hkept
      exact hother hsession center hcenter _ hwatched (of_decide_eq_true hmatch)
    have hfirst := hranked.firstSeenAt
    rw [(confirmCenter_restarts hstart).2] at hfirst
    refine ⟨?_, hfirst⟩
    rw [← Option.some.inj (hranked.count.symm.trans hcount), (confirmCenter_restarts hstart).1]
    split <;> simp

theorem Decided.unwatched (h : Decided numerics policy (decision :: past))
    (hstate : decision.pin.terminalState = .pinMigrating ∨
      decision.pin.terminalState = .uncertain) : decision.pinWatchCenter = none := by
  unfold Decision.pinWatchCenter
  rcases h.assessed with ⟨hnone, -⟩ | hranked
  · simp [PinAssessment.topCenter, hnone]
  · have hgraded := hranked.graded
    rcases hstate with hstate | hstate <;> simp_all

theorem Decided.confirmed (h : Decided numerics policy (decision :: past)) {center : ℚ}
    (hcenter : center ∈ decision.pinTradeCenter) : center ∈ decision.pinWatchCenter ∧
      ∃ count since, decision.pin.centerConfirmationCount = some count ∧
        decision.pin.centerFirstSeenAt = some since ∧
        policy.centerMinConfirmationSnapshots ≤ count ∧
        policy.centerMinDwellSeconds ≤ max (secondsBetween decision.decisionAt since) 0 := by
  unfold Decision.pinTradeCenter at hcenter
  split at hcenter
  · rename_i htrade
    have hranked := h.ranked hcenter
    have hready := hranked.ready.symm.trans htrade.2
    simp only [confirmCenter, decide_eq_true_eq, Bool.decide_and, Bool.and_eq_true] at hready
    refine ⟨?_, _, _, hranked.count, hranked.firstSeenAt, hready.2⟩
    simpa [Decision.pinWatchCenter, htrade.1] using hcenter
  · cases hcenter

/-- **A pin center is traded only after confirmation.** In every run with times in order, a center
that may be traded is the center of the newest of so many decisions of one session that each watch
the center of the next, from the first on long enough. A decision that is migrating or uncertain, of
another session or on another center, restarts the count and the clock of the decision after it. -/
theorem pin_trade_confirmed {log : List (PinFacts × Option Decision)} {run : List Decision}
    (hrun : Run (step numerics policy) anyStep [] log run)
    (hordered : run.Pairwise fun later earlier => earlier.decisionAt ≤ later.decisionAt) :
    (∀ decision past, decision :: past <:+ run → ∀ center ∈ decision.pinTradeCenter,
      center ∈ decision.pinWatchCenter ∧ ∃ streak older first, decision :: past = streak ++ older ∧
        policy.centerMinConfirmationSnapshots ≤ streak.length ∧ streak.IsChain Continues ∧
        (∀ earlier ∈ streak, earlier.sessionDate = decision.sessionDate ∧
          earlier.pinWatchCenter.isSome) ∧ streak.getLast? = some first ∧
        policy.centerMinDwellSeconds ≤ secondsBetween decision.decisionAt first.decisionAt) ∧
    ∀ decision earlier past, decision :: earlier :: past <:+ run →
      (earlier.pin.terminalState = .pinMigrating ∨ earlier.pin.terminalState = .uncertain ∨
        earlier.sessionDate ≠ decision.sessionDate ∨
        ∀ a ∈ decision.pin.topCenter, ∀ b ∈ earlier.pinWatchCenter, 1 / 100 < |a - b|) →
      ∀ count ∈ decision.pin.centerConfirmationCount, count ≤ 1 ∧
        decision.pin.centerFirstSeenAt = some decision.decisionAt := by
  constructor
  · intro decision past hpast center hcenter
    have hdecided := (decided_run hrun).suffix hpast
    obtain ⟨hwatch, count, since, hcount, hsince, hoften, hlong⟩ := hdecided.confirmed hcenter
    obtain ⟨count', since', hcount', hsince', hpositive, hstreak⟩ := decided_streak hdecided hwatch
    obtain rfl := Option.some.inj (hcount.symm.trans hcount')
    obtain rfl := Option.some.inj (hsince.symm.trans hsince')
    refine ⟨hwatch, ?_⟩
    obtain ⟨_ | ⟨newest, streak⟩, older, heq, rfl, hchain, hfirst⟩ := hstreak
    · exact absurd rfl hpositive
    obtain ⟨rfl, rfl⟩ := List.cons.inj heq
    obtain ⟨first, hlast, rfl⟩ := Option.map_eq_some_iff.mp hfirst
    refine ⟨decision :: streak, older, first, rfl, hoften, hchain,
      chain_session hchain (Option.isSome_of_mem hwatch), hlast, ?_⟩
    have hle : first.decisionAt ≤ decision.decisionAt := by
      rcases mem_cons.mp (mem_of_getLast? hlast) with rfl | hmem
      · exact le_rfl
      · have hbefore := hordered.sublist hpast.sublist
        exact rel_of_pairwise_cons hbefore (mem_append_left _ hmem)
    have hnonneg : 0 ≤ secondsBetween decision.decisionAt first.decisionAt := by
      have hdiff : (0 : ℚ) ≤ ((decision.decisionAt - first.decisionAt : Int) : ℚ) :=
        Int.cast_nonneg (Int.sub_nonneg_of_le hle)
      exact div_nonneg hdiff (by norm_num)
    rwa [max_eq_left hnonneg] at hlong
  · intro decision earlier past hpast hother
    have hdecided := (decided_run hrun).suffix hpast
    refine hdecided.restarts fun hsession a ha b hb hnear => ?_
    have hearlier := hdecided.suffix (suffix_cons _ _)
    rcases hother with hstate | hstate | hdate | hfar
    · cases (hearlier.unwatched (.inl hstate)).symm.trans hb
    · cases (hearlier.unwatched (.inr hstate)).symm.trans hb
    · exact hdate hsession
    · exact absurd hnear (not_le.mpr (hfar a ha b hb))

/-! ## Three decisions on one strike -/

/-- The decisions made of facts one after another, from the newest on. -/
def decisions (numerics : Numerics) (policy : StrategyPolicy) (facts : List PinFacts) :
    List Decision :=
  (play (step numerics policy) [] facts).2

/-- At the one strike 6000, with the value centers on it, only `exp 0` is asked for. -/
def oneStrike : Numerics where
  exp := fun x => 1 + x
  float := fun key => if key = "6000" then some 6000 else none
  isDigits := fun key => key = "6000"
  general := fun center => if center = 6000 then "6000" else ""

def pinnedAt (minute : Int) : PinFacts where
  decisionAt := minute * 60000000
  sessionDate := some "2026-09-14"
  mode := .rth
  minutesToClose := some (240 - minute)
  efficiencyRatio30m := some (1 / 10)
  breadthAboveVwap := some (1 / 2)
  pinPathSpx := [6005, 6000, 6005, 6000, 6001, 6000, 6001]
  spx15m := some 6000
  spx30m := some 6000
  spx60m := some 6000
  atmStraddleDecay15m := some (1 / 50)
  vixReturn15mPct := some 0
  zeroGamma := some 6000
  putWall := none
  callWall := none
  flipZone := []
  mass := [("6000", some 1)]
  shockState := "NONE"

theorem pinned_traded :
    (decisions oneStrike {} [pinnedAt 0, pinnedAt 5]).map Decision.pinTradeCenter = [none, none] ∧
      ∃ decision past, decisions oneStrike {} [pinnedAt 0, pinnedAt 5, pinnedAt 10] =
        decision :: past ∧ 6000 ∈ decision.pinTradeCenter ∧ 6000 ∈ decision.pinWatchCenter := by
  refine ⟨by decide +kernel, ?_⟩
  have hrun : Run (step oneStrike {}) anyStep [] _
      (decisions oneStrike {} [pinnedAt 0, pinnedAt 5, pinnedAt 10]) := run_play _ _ _
  have htraded : (decisions oneStrike {} [pinnedAt 0, pinnedAt 5, pinnedAt 10]).head?.bind
      Decision.pinTradeCenter = some 6000 := by decide +kernel
  have hordered : (decisions oneStrike {} [pinnedAt 0, pinnedAt 5, pinnedAt 10]).Pairwise
      fun later earlier => earlier.decisionAt ≤ later.decisionAt := by decide +kernel
  generalize decisions oneStrike {} [pinnedAt 0, pinnedAt 5, pinnedAt 10] = run
    at hrun htraded hordered
  obtain ⟨decision, hhead, hcenter⟩ := Option.bind_eq_some_iff.mp htraded
  obtain ⟨past, rfl⟩ := head?_eq_some_iff.mp hhead
  exact ⟨decision, past, rfl, hcenter,
    ((pin_trade_confirmed hrun hordered).1 decision past suffix_rfl 6000 hcenter).1⟩

end SpxSpark.OrderMap.Pin
