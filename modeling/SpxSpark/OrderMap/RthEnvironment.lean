import Mathlib.Algebra.Order.Ring.Star
import Mathlib.Data.Rat.Star
import SpxSpark.Lib.Clock

/-!
# RthEnvironment — the volatility of the session, and its memory of expansion

The environment of a decision says whether volatility expands or contracts, or contracts after a
recent expansion.
-/

namespace SpxSpark.OrderMap.RthEnvironment

/-- What the environment reads of `StrategyPolicy`, with its defaults. -/
structure StrategyPolicy where
  vix1dExpansion15mPct : ℚ := 2 / 100
  atmIvExpansion5m : ℚ := 1 / 100
  atmIvExpansion15m : ℚ := 15 / 1000
  straddleReexpansion15m : ℚ := -2 / 100
  breadthBalanceMin : ℚ := 35 / 100
  breadthBalanceMax : ℚ := 65 / 100
  expansionTransitionMaxAgeSeconds : ℚ := 1200
  shortRateProxyFast15mPct : ℚ := 2 / 10000
  longRateProxyFast15mPct : ℚ := 8 / 10000
  creditStress15mPct : ℚ := -1 / 1000
  dollarConfirmation15mPct : ℚ := 1 / 1000
  oilShock15mPct : ℚ := 4 / 1000

inductive SessionMode
  | rth | gth | closed
  deriving DecidableEq

inductive PathState
  | trend | balanced | transition | uncertain
  deriving DecidableEq

inductive TerminalState
  | pinStable | pinMigrating | none | uncertain
  deriving DecidableEq

/-- `core`: the inputs without which there is no verdict. -/
structure Core (α : Type) where
  vix1d : α
  atm5m : α
  atm15m : α
  straddleDecay : α
  breadth : α

def Core.missing (core : Core (Option ℚ)) : List String :=
  [("vix1d_return_15m_pct", core.vix1d), ("atm_iv_change_5m", core.atm5m),
    ("atm_iv_change_15m", core.atm15m), ("atm_straddle_decay_15m", core.straddleDecay),
    ("breadth_above_vwap", core.breadth)].filterMap fun (key, value) =>
      if value.isNone then some key else none

def Core.present : Core (Option ℚ) → Option (Core ℚ)
  | ⟨some vix1d, some atm5m, some atm15m, some decay, some breadth⟩ =>
    some ⟨vix1d, atm5m, atm15m, decay, breadth⟩
  | _ => none

/-- What one decision is made from, beside the decision before it. -/
structure Facts where
  decisionAt : Instant
  sessionDate : String
  mode : SessionMode
  entryAllowed : Option Bool
  eventState : String
  core : Core (Option ℚ)
  gammaState : String
  shortRate : Option ℚ
  longRate : Option ℚ
  credit : Option ℚ
  dollar : Option ℚ
  oil : Option ℚ
  pathState : PathState
  terminalState : TerminalState

inductive State
  | notApplicable | eventRisk | insufficientData
  | riskExpansion | expansionToContraction | volContractionBalance | mixedUnconfirmed
  deriving DecidableEq

inductive Status
  | notApplicable | ready | degraded | unavailable
  deriving DecidableEq

/-- The mapping that is returned, with `none` and `[]` for a key that it does not have. What it only
copies (the status of the straddle comparison and of the macro proxies) is left out. -/
structure Environment where
  state : State
  status : Status
  rangeStructuresAllowed : Option Bool := none
  directionalStructuresAllowed : Option Bool := none
  missing : List String := []
  observedAt : Option Instant := none
  lastExpansionAt : Option Instant := none
  transitionAgeSeconds : Option ℚ := none
  expansionSignals : List Bool := []
  contractionSignals : List Bool := []
  macroConfirmations : List Bool := []
  reasons : List String

structure Decision where
  decisionAt : Instant
  sessionDate : String
  environment : Environment

/-! ## The signals -/

section

variable (policy : StrategyPolicy) (facts : Facts)

/-- The event of the facts lets no structure in. -/
def EventRisk : Prop :=
  facts.entryAllowed = some false ∨ facts.eventState ∈ ["pre_event", "SCHEDULED_EVENT_RISK"]

instance : Decidable (EventRisk facts) := inferInstanceAs (Decidable (_ ∨ _))

def negativeGamma : Bool := facts.gammaState = "negative_gamma_acceleration"

def expansionSignals (core : Core ℚ) : List Bool :=
  [policy.vix1dExpansion15mPct ≤ core.vix1d, policy.atmIvExpansion5m ≤ core.atm5m,
    policy.atmIvExpansion15m ≤ core.atm15m, core.straddleDecay ≤ policy.straddleReexpansion15m,
    negativeGamma facts]

def contractionSignals (core : Core ℚ) : List Bool :=
  [core.vix1d ≤ 0, core.atm5m ≤ 0, core.atm15m ≤ 0, 0 ≤ core.straddleDecay]

def breadthBalanced (core : Core ℚ) : Bool :=
  policy.breadthBalanceMin ≤ core.breadth ∧ core.breadth ≤ policy.breadthBalanceMax

def ratesFast : Bool :=
  match facts.shortRate, facts.longRate with
  | some short, some long => 0 < short * long ∧
      (policy.shortRateProxyFast15mPct ≤ |short| ∨ policy.longRateProxyFast15mPct ≤ |long|)
  | _, _ => false

def macroConfirmations : List Bool :=
  [ratesFast policy facts, facts.credit.any (· ≤ policy.creditStress15mPct),
    facts.dollar.any (policy.dollarConfirmation15mPct ≤ ·),
    facts.oil.any (policy.oilShock15mPct ≤ |·|)]

def expansionConfirmed (core : Core ℚ) : Bool :=
  2 ≤ (expansionSignals policy facts core).count true ∨
    1 ≤ (expansionSignals policy facts core).count true ∧
      (facts.pathState = .trend ∨ !breadthBalanced policy core ∨
        (macroConfirmations policy facts).any id)

def contractionConfirmed (core : Core ℚ) : Bool :=
  3 ≤ (contractionSignals core).count true ∧ breadthBalanced policy core ∧
    (facts.pathState = .balanced ∨ facts.terminalState = .pinStable) ∧ !negativeGamma facts

end

/-! ## The environment -/

/-- The time of the last expansion that an environment holds. -/
def Environment.expandedAt (environment : Environment) : Option Instant :=
  environment.lastExpansionAt.or <|
    if environment.state = .riskExpansion then environment.observedAt else none

/-- `previous_rth_environment` of `build_market_fact_pack`. -/
def previousRthEnvironment (previous : Option Decision) (facts : Facts) : Option Environment :=
  previous.bind fun decision =>
    if facts.decisionAt < decision.decisionAt ∨
        facts.sessionDate ≠ "" ∧ decision.sessionDate ≠ facts.sessionDate then none
    else some { decision.environment with
      observedAt := decision.environment.observedAt.or (some decision.decisionAt) }

section

variable (policy : StrategyPolicy)

def verdictState (expansion contraction recent : Bool) : State :=
  if expansion then .riskExpansion
  else if contraction && recent then .expansionToContraction
  else if contraction then .volContractionBalance
  else .mixedUnconfirmed

/-- What `assess_rth_environment` returns with nothing missing. -/
def verdict (facts : Facts) (core : Core ℚ) (previous : Option Environment) : Environment :=
  let expansion := expansionConfirmed policy facts core
  let lastExpansionAt :=
    if expansion then some facts.decisionAt else previous.bind Environment.expandedAt
  let age := (lastExpansionAt.filter (· ≤ facts.decisionAt)).map (secondsBetween facts.decisionAt)
  let state := verdictState expansion (contractionConfirmed policy facts core)
    (age.any (· ≤ policy.expansionTransitionMaxAgeSeconds))
  { state, status := .ready, directionalStructuresAllowed := some true
    rangeStructuresAllowed := some (state ∈ [.volContractionBalance, .expansionToContraction])
    observedAt := some facts.decisionAt, lastExpansionAt, transitionAgeSeconds := age
    expansionSignals := expansionSignals policy facts core
    contractionSignals := contractionSignals core
    macroConfirmations := macroConfirmations policy facts
    reasons := ["macro_is_filter_not_direction", "price_trigger_still_required"] }

def assessRthEnvironment (facts : Facts) (previous : Option Environment) : Environment :=
  if facts.mode ≠ .rth then { state := .notApplicable, status := .notApplicable, reasons := [] }
  else if EventRisk facts then
    { state := .eventRisk, status := .ready, rangeStructuresAllowed := some false
      directionalStructuresAllowed := some false
      reasons := ["scheduled_event_can_reprice_remaining_distribution"] }
  else match facts.core.present with
  | none =>
    let breadthOnly : Bool := facts.core.missing = ["breadth_above_vwap"]
    { state := .insufficientData, status := if breadthOnly then .degraded else .unavailable
      rangeStructuresAllowed := some false, directionalStructuresAllowed := some breadthOnly
      missing := facts.core.missing
      reasons := [if breadthOnly then "rth_breadth_unavailable_directional_advisory"
        else "rth_environment_core_inputs_unavailable"] }
  | some core => verdict policy facts core previous

/-- The environment of a decision that follows another. -/
def environmentOf (previous : Option Decision) (facts : Facts) : Environment :=
  assessRthEnvironment policy facts (previousRthEnvironment previous facts)

/-- The last decision of a run, whose facts are listed from the newest on. -/
def lastDecision (start : Option Decision) : List Facts → Option Decision
  | [] => start
  | facts :: past => some ⟨facts.decisionAt, facts.sessionDate,
      environmentOf policy (lastDecision start past) facts⟩

/-! ## What a decision says of its own facts -/

/-- The facts are read as far as the signals. -/
def Facts.read (facts : Facts) : Option (Core ℚ) :=
  if facts.mode = .rth ∧ ¬EventRisk facts then facts.core.present else none

def expands (facts : Facts) : Bool := facts.read.any (expansionConfirmed policy facts)

def contracts (facts : Facts) : Bool := facts.read.any (contractionConfirmed policy facts)

/-- A decision is at most the age of a transition before another. -/
def recent (now facts : Facts) : Bool :=
  secondsBetween now.decisionAt facts.decisionAt ≤ policy.expansionTransitionMaxAgeSeconds

end

/-- Decisions of one session in RTH, from the newest on. -/
structure SessionRun (session : String) (run : List Facts) : Prop where
  ordered : run.Pairwise fun later earlier => earlier.decisionAt ≤ later.decisionAt
  rth : ∀ facts ∈ run, facts.mode = .rth
  session : ∀ facts ∈ run, facts.sessionDate = session

/-- The decision before a run holds no expansion of its session. -/
def Forgotten (session : String) (start : Option Decision) : Prop :=
  ∀ decision ∈ start, session ≠ "" ∧ decision.sessionDate ≠ session ∨
    decision.environment.lastExpansionAt = none ∧ decision.environment.state ≠ .riskExpansion

/-! ## The memory -/

variable {policy : StrategyPolicy} {facts now : Facts} {past : List Facts} {session : String}
  {start : Option Decision}

theorem verdictState_transition {expansion contraction recent : Bool} :
    verdictState expansion contraction recent = .expansionToContraction ↔
      contraction ∧ ¬expansion ∧ recent := by
  cases expansion <;> cases contraction <;> cases recent <;> decide

theorem verdictState_expansion {expansion contraction recent : Bool} :
    verdictState expansion contraction recent = .riskExpansion ↔ expansion := by
  cases expansion <;> cases contraction <;> cases recent <;> decide

theorem assess_read (previous : Option Environment) {core : Core ℚ} (h : facts.read = some core) :
    assessRthEnvironment policy facts previous = verdict policy facts core previous := by
  unfold Facts.read at h
  split at h
  · rename_i hread
    rw [assessRthEnvironment, if_neg (not_not.mpr hread.1), if_neg hread.2, h]
  · cases h

variable (policy) in
theorem assess_unread (previous : Option Environment) (h : facts.read = none) :
    (assessRthEnvironment policy facts previous).lastExpansionAt = none ∧
      (assessRthEnvironment policy facts previous).state ∈
        [.notApplicable, .eventRisk, .insufficientData] := by
  unfold Facts.read at h
  unfold assessRthEnvironment
  split
  · simp
  split
  · simp
  rename_i hmode hevent
  rw [if_pos ⟨not_not.mp hmode, hevent⟩] at h
  simp [h]

/-- What a decision holds, whenever it is taken for observed: the time of an expansion of its own,
or, if it reaches a verdict, the one that it was handed. -/
theorem assess_expandedAt (previous : Option Environment) (observedAt : Option Instant) :
    { assessRthEnvironment policy facts previous with observedAt }.expandedAt =
      if expands policy facts then some facts.decisionAt
      else if facts.read.isSome then previous.bind Environment.expandedAt else none := by
  unfold expands
  cases hread : facts.read with
  | none =>
    obtain ⟨hlast, hstate⟩ := assess_unread policy previous hread
    have hrisk : (assessRthEnvironment policy facts previous).state ≠ .riskExpansion := by
      rintro heq
      simp [heq] at hstate
    simp [Environment.expandedAt, hlast, hrisk]
  | some core =>
    rw [assess_read previous hread]
    cases hexpansion : expansionConfirmed policy facts core <;>
      simp [verdict, Environment.expandedAt, hexpansion, verdictState_expansion]

theorem assess_transition (previous : Option Environment) :
    (assessRthEnvironment policy facts previous).state = .expansionToContraction ↔
      contracts policy facts ∧ ¬expands policy facts ∧
        ∃ expanded ∈ previous.bind Environment.expandedAt, expanded ≤ facts.decisionAt ∧
          secondsBetween facts.decisionAt expanded ≤ policy.expansionTransitionMaxAgeSeconds := by
  unfold contracts expands
  cases hread : facts.read with
  | none =>
    have hstate := (assess_unread policy previous hread).2
    refine iff_of_false (fun heq => ?_) (by simp)
    simp [heq] at hstate
  | some core =>
    rw [assess_read previous hread]
    simp only [verdict, verdictState_transition, Option.any_some]
    refine and_congr_right fun _ => and_congr_right fun hexpansion => ?_
    rw [if_neg hexpansion]
    cases previous.bind Environment.expandedAt with
    | none => simp
    | some expanded =>
      by_cases h : expanded ≤ facts.decisionAt <;> simp [Option.filter, h]

/-! ## The law of every run -/

variable (policy) in
/-- The last expansion that no decision without a verdict follows. -/
def remembered : List Facts → Option Facts
  | [] => none
  | facts :: past =>
    if expands policy facts then some facts
    else if facts.read.isSome then remembered past else none

theorem handed_remembered (hrun : SessionRun session (now :: past))
    (hstart : Forgotten session start) :
    (previousRthEnvironment (lastDecision policy start past) now).bind Environment.expandedAt =
      (remembered policy past).map Facts.decisionAt := by
  have hsession : now.sessionDate = session := hrun.session _ List.mem_cons_self
  induction past generalizing now with
  | nil =>
    cases start with
    | none => rfl
    | some decision =>
      simp only [lastDecision, previousRthEnvironment, Option.bind_some, remembered,
        Option.map_none]
      split
      · rfl
      · rename_i hkept
        rcases hstart decision rfl with hother | ⟨hlast, hstate⟩
        · exact absurd (.inr (hsession ▸ hother)) hkept
        · simp [Environment.expandedAt, hlast, hstate]
  | cons facts past ih =>
    have hkept : ¬(now.decisionAt < facts.decisionAt ∨
        now.sessionDate ≠ "" ∧ facts.sessionDate ≠ now.sessionDate) := by
      have hsame : facts.sessionDate = session := hrun.session _ (by simp)
      have hle := List.rel_of_pairwise_cons hrun.ordered List.mem_cons_self
      simp [hsame, hsession, hle]
    have hpast : SessionRun session (facts :: past) :=
      ⟨hrun.ordered.of_cons, fun f hf => hrun.rth f (.tail _ hf),
        fun f hf => hrun.session f (.tail _ hf)⟩
    simp only [lastDecision, previousRthEnvironment, Option.bind_some]
    rw [if_neg hkept, Option.bind_some, environmentOf, assess_expandedAt,
      ih hpast (hpast.session _ List.mem_cons_self), remembered]
    split
    · rfl
    · split <;> rfl

variable (policy) in
/-- A recent expansion is followed only by decisions with a verdict. -/
def Carried (now : Facts) (past : List Facts) : Prop :=
  ∃ newer facts older, past = newer ++ facts :: older ∧ expands policy facts ∧
    recent policy now facts ∧ ∀ between ∈ newer, between.read.isSome

theorem carried_cons : Carried policy now (facts :: past) ↔
    expands policy facts ∧ recent policy now facts ∨
      facts.read.isSome ∧ Carried policy now past := by
  constructor
  · rintro ⟨_ | ⟨first, newer⟩, expanded, older, hpast, hexpands, hrecent, hread⟩
    · obtain ⟨rfl, rfl⟩ := List.cons.inj hpast
      exact .inl ⟨hexpands, hrecent⟩
    · obtain ⟨rfl, rfl⟩ := List.cons.inj hpast
      obtain ⟨hfirst, hnewer⟩ := List.forall_mem_cons.mp hread
      exact .inr ⟨hfirst, newer, expanded, older, rfl, hexpands, hrecent, hnewer⟩
  · rintro (⟨hexpands, hrecent⟩ | ⟨hfirst, newer, expanded, older, rfl, hexpands, hrecent, hnewer⟩)
    · exact ⟨[], facts, past, rfl, hexpands, hrecent, by simp⟩
    · exact ⟨facts :: newer, expanded, older, rfl, hexpands, hrecent,
        List.forall_mem_cons.mpr ⟨hfirst, hnewer⟩⟩

theorem remembered_mem {past : List Facts} (h : facts ∈ remembered policy past) : facts ∈ past := by
  induction past with
  | nil => cases h
  | cons first past ih =>
    unfold remembered at h
    split at h
    · cases h
      exact List.mem_cons_self
    split at h
    · exact List.mem_cons_of_mem _ (ih h)
    · cases h

theorem recent_later {older : Facts} (h : recent policy now older)
    (hle : older.decisionAt ≤ facts.decisionAt) : recent policy now facts := by
  have hold : secondsBetween now.decisionAt facts.decisionAt ≤
      secondsBetween now.decisionAt older.decisionAt := by
    unfold secondsBetween
    gcongr
  exact decide_eq_true (hold.trans (of_decide_eq_true h))

theorem remembered_recent
    (hordered : past.Pairwise fun later earlier => earlier.decisionAt ≤ later.decisionAt) :
    (∃ facts ∈ remembered policy past, recent policy now facts) ↔ Carried policy now past := by
  induction past with
  | nil => simp [remembered, Carried]
  | cons facts past ih =>
    obtain ⟨hfirst, hpast⟩ := List.pairwise_cons.mp hordered
    rw [carried_cons, remembered, ← ih hpast]
    cases hexpands : expands policy facts
    · cases hread : facts.read.isSome <;> simp
    · simp only [if_true, Option.mem_def, Option.some.injEq, exists_eq_left', true_and]
      refine ⟨.inl, ?_⟩
      rintro (hrecent | ⟨-, older, holder, hrecent⟩)
      · exact hrecent
      · exact recent_later hrecent (hfirst _ (remembered_mem holder))

/-- **Expansion is remembered across verdicts only.** In every run of RTH decisions of one session,
a decision tells the transition from expansion to contraction exactly when it should, if and only
if, where it should, some recent expansion is followed only by decisions with a verdict: neither
event risk nor a missing input. -/
theorem expansion_remembered_iff (policy : StrategyPolicy) {session : String}
    {start : Option Decision} {run : List Facts} (hrun : SessionRun session run)
    (hstart : Forgotten session start) {now : Facts} {past : List Facts}
    (hat : now :: past <:+ run) :
    ((environmentOf policy (lastDecision policy start past) now).state = .expansionToContraction ↔
      contracts policy now ∧ ¬expands policy now ∧
        ∃ facts ∈ past, expands policy facts ∧ recent policy now facts) ↔
    (contracts policy now → ¬expands policy now →
      (∃ facts ∈ past, expands policy facts ∧ recent policy now facts) →
        Carried policy now past) := by
  have hnow : SessionRun session (now :: past) :=
    ⟨hrun.ordered.sublist hat.sublist, fun f hf => hrun.rth f (hat.subset hf),
      fun f hf => hrun.session f (hat.subset hf)⟩
  have hstate : (environmentOf policy (lastDecision policy start past) now).state =
      .expansionToContraction ↔
        contracts policy now ∧ ¬expands policy now ∧ Carried policy now past := by
    rw [environmentOf, assess_transition, handed_remembered hnow hstart,
      ← remembered_recent hnow.ordered.of_cons]
    refine and_congr_right fun _ => and_congr_right fun _ => ?_
    have hbefore : ∀ facts ∈ remembered policy past, facts.decisionAt ≤ now.decisionAt :=
      fun facts hfacts => List.rel_of_pairwise_cons hnow.ordered (remembered_mem hfacts)
    cases hlast : remembered policy past with
    | none => simp
    | some facts => simp [recent, hbefore facts hlast]
  have hexpanded : Carried policy now past →
      ∃ facts ∈ past, expands policy facts ∧ recent policy now facts := by
    rintro ⟨newer, facts, older, rfl, hexpands, hrecent, -⟩
    exact ⟨facts, by simp, hexpands, hrecent⟩
  rw [hstate]
  constructor
  · rintro hlaw hcontracts hexpands hrecent
    exact (hlaw.mpr ⟨hcontracts, hexpands, hrecent⟩).2.2
  · intro hcarried
    refine and_congr_right fun hcontracts => and_congr_right fun hexpands => ?_
    exact ⟨hexpanded, hcarried hcontracts hexpands⟩

/-! ## A forgotten expansion -/

/-- A contraction at some minute of a session. -/
def quietAt (minute : Int) : Facts where
  decisionAt := minute * 60000000
  sessionDate := "2026-09-14"
  mode := .rth
  entryAllowed := some true
  eventState := "normal"
  core := ⟨some (-1 / 100), some (-3 / 1000), some (-2 / 1000), some (4 / 100), some (1 / 2)⟩
  gammaState := "zero_gamma_transition"
  shortRate := none
  longRate := none
  credit := none
  dollar := none
  oil := none
  pathState := .balanced
  terminalState := .none

def expandingAt (minute : Int) : Facts :=
  { quietAt minute with core := ⟨some (3 / 100), some (2 / 100), some 0, some 0, some (1 / 2)⟩ }

def eventAt (minute : Int) : Facts := { quietAt minute with eventState := "pre_event" }

def mixedAt (minute : Int) : Facts := { quietAt minute with pathState := .transition }

/-- With an event risk between them, a contraction two minutes after an expansion is not told as a
transition. -/
theorem expansion_forgotten :
    SessionRun "2026-09-14" [quietAt 32, eventAt 31, expandingAt 30] ∧
      Forgotten "2026-09-14" none ∧ contracts {} (quietAt 32) ∧ ¬expands {} (quietAt 32) ∧
      (∃ facts ∈ [eventAt 31, expandingAt 30], expands {} facts ∧ recent {} (quietAt 32) facts) ∧
      (environmentOf {} (lastDecision {} none [eventAt 31, expandingAt 30]) (quietAt 32)).state =
        .volContractionBalance := by
  refine ⟨⟨by decide, by decide, by decide⟩, by simp [Forgotten], ?_⟩
  decide +kernel

theorem expansion_remembered_mixed :
    (environmentOf {} (lastDecision {} none [mixedAt 31, expandingAt 30]) (quietAt 32)).state =
      .expansionToContraction := by
  have hrun : SessionRun "2026-09-14" [quietAt 32, mixedAt 31, expandingAt 30] :=
    ⟨by decide, by decide, by decide⟩
  refine ((expansion_remembered_iff {} hrun (by simp [Forgotten]) List.suffix_rfl).mpr ?_).mpr ?_
  · intro _ _ _
    exact ⟨[mixedAt 31], expandingAt 30, [], rfl, by decide +kernel⟩
  · decide +kernel

end SpxSpark.OrderMap.RthEnvironment
