import Mathlib.Data.List.Sort
import SpxSpark.Lib.Clock
import SpxSpark.Lib.Run
import SpxSpark.Domain.Validation

/-!
# AtmReference — where the strike window is centred

The controller picks an at-the-money reference from cash, proxies and options, and keeps three
things over a restart: the recent ES-minus-SPX samples with their median, the last accepted strike,
and whether the one stale fallback is used up.
-/

namespace SpxSpark.Ibkr

open Lib Domain

/-! ## Quotes and persisted state -/

structure ReferenceQuote where
  value : Option ℚ
  observedAt : Option Instant
  freshness : String
  contract : Option String := none

structure BasisObservation where
  value : ℚ
  observedAt : Instant
  deriving DecidableEq

structure BasisState where
  esContract : String
  tradingDate : Int
  samples : List BasisObservation
  sampleCount : Nat
  sampleWindowStart : Option Instant
  median : Option ℚ
  observedAt : Option Instant
  deriving DecidableEq

structure StableAtmState where
  roundedStrike : Int
  source : String
  observedAt : Instant
  expiry : Option (List Char)
  deriving DecidableEq

structure AtmReferenceCandidate where
  value : ℚ
  roundedStrike : Int
  source : String
  observedAt : Instant
  freshness : String
  basisValue : Option ℚ := none
  basisAsOf : Option Instant := none
  basisContract : Option String := none
  reason : String

structure AtmReferenceResult where
  candidate : Option AtmReferenceCandidate
  stableAtm : Option StableAtmState
  basis : Option BasisState
  reason : String

def stateSchemaVersion : Nat := 1
def basisWindowSeconds : ℚ := 5 * 60
def basisMinSamples : Nat := 5
def basisMinSpanSeconds : ℚ := 30
def basisMaxTimestampSkewSeconds : ℚ := 5
def basisMaxAbsPoints : ℚ := 120
def basisMaxMedianDeviationPoints : ℚ := 15
def basisMaxTradingDayAge : Int := 3

def validPrice (value : Option ℚ) : Bool := value.any fun value => 0 < value

def ReferenceQuote.isFresh (quote : ReferenceQuote) : Bool :=
  quote.freshness = "fresh" && quote.observedAt.isSome && validPrice quote.value

/-- `statistics.median`. -/
def median (values : List ℚ) : ℚ :=
  let sorted := values.insertionSort (· ≤ ·)
  let middle := sorted.length / 2
  if sorted.length % 2 = 1 then sorted.getD middle 0
  else (sorted.getD (middle - 1) 0 + sorted.getD middle 0) / 2

variable (samples : List BasisObservation)

def sampleValues : List ℚ := samples.map (·.value)

/-! ## The basis tracker -/

variable (state : Option BasisState)

def invalidateForContract (esContract : Option String) : Option BasisState :=
  match esContract with
  | none => state
  | some contract =>
    if contract = "" then state else state.filter fun basis => basis.esContract = contract

/-- The contract and the sample of two fresh quotes of one moment. -/
def basisObservation (spx es : ReferenceQuote) : Option (String × BasisObservation) :=
  match spx.value, spx.observedAt, es.value, es.observedAt, es.contract with
  | some spxValue, some spxAt, some esValue, some esAt, some contract =>
    if !spx.isFresh || !es.isFresh || contract = "" then none
    else if |secondsBetween esAt spxAt| > basisMaxTimestampSkewSeconds then none
    else if |esValue - spxValue| > basisMaxAbsPoints then none
    else some (contract, { value := esValue - spxValue, observedAt := max spxAt esAt })
  | _, _, _, _, _ => none

/-- The samples of the same contract and day that are inside the window of a new one. -/
def retainedSamples (contract : String) (tradingDate : Int) (observedAt : Instant) :
    List BasisObservation :=
  match state with
  | none => []
  | some existing =>
    if existing.esContract ≠ contract ∨ existing.tradingDate ≠ tradingDate then []
    else existing.samples.filter fun sample =>
      secondsBetween observedAt sample.observedAt ≤ basisWindowSeconds

/-- A new pair of source observations, and not too far from the median of the samples kept. -/
def admits (observation : BasisObservation) : Bool :=
  match samples.getLast? with
  | none => true
  | some last => last.observedAt < observation.observedAt &&
      |observation.value - median (sampleValues samples)| ≤ basisMaxMedianDeviationPoints

/-- The seconds between the first and the last sample. -/
def sampleSpan : Option ℚ :=
  match samples.head?, samples.getLast? with
  | some first, some last => some (secondsBetween last.observedAt first.observedAt)
  | _, _ => none

/-- Enough samples over enough time. -/
def qualifies : Bool :=
  (sampleSpan samples).any fun span =>
    basisMinSamples ≤ samples.length && basisMinSpanSeconds ≤ span

structure Admission where
  esContract : String
  retained : List BasisObservation
  observation : BasisObservation

/-- What an observation adds, if it is admitted. -/
def admission (spx es : Option ReferenceQuote) (isRth : Bool) (tradingDate : Int) :
    Option Admission :=
  match spx, es with
  | some spx, some es =>
    if !isRth then none
    else
      match basisObservation spx es with
      | none => none
      | some (contract, observation) =>
        let retained := retainedSamples state contract tradingDate observation.observedAt
        if admits retained observation then some ⟨contract, retained, observation⟩ else none
  | _, _ => none

def BasisState.ofSamples (esContract : String) (tradingDate : Int)
    (retained : List BasisObservation) (observation : BasisObservation) : BasisState :=
  let samples := retained ++ [observation]
  { esContract, tradingDate, samples
    sampleCount := samples.length
    sampleWindowStart := samples.head?.map (·.observedAt)
    median := if qualifies samples then some (Ibkr.median (sampleValues samples)) else none
    observedAt := some observation.observedAt }

/-- The tracker's state after an observation; a quote of another contract drops the old one even
when it is not admitted. -/
def observe (spx es : Option ReferenceQuote) (isRth : Bool) (tradingDate : Int) :
    Option BasisState :=
  let state := invalidateForContract state (es.bind (·.contract))
  match admission state spx es isRth tradingDate with
  | none => state
  | some admitted =>
    some (.ofSamples admitted.esContract tradingDate admitted.retained admitted.observation)

def validState (esContract : Option String) (tradingDaysSinceObservation : Option Int) :
    Option BasisState :=
  match state, tradingDaysSinceObservation with
  | some basis, some days =>
    if basis.median.isSome ∧ esContract = some basis.esContract ∧ basis.esContract ≠ "" ∧
      0 ≤ days ∧ days ≤ basisMaxTradingDayAge then some basis
    else none
  | _, _ => none

/-! ## The controller -/

structure AtmReferenceController where
  basis : Option BasisState := none
  stableAtm : Option StableAtmState := none
  staleSpxBootstrapUsed : Bool := false
  deriving DecidableEq

structure ResolveInputs where
  strikeStep : Int
  isRth : Bool
  tradingDate : Int
  tradingDaysSinceBasis : Option Int := none
  spx : Option ReferenceQuote := none
  ibus500 : Option ReferenceQuote := none
  es : Option ReferenceQuote := none
  spy : Option ReferenceQuote := none
  optionReference : Option ReferenceQuote := none
  expiryRollover : Bool := false
  stableAtmRecovery : Bool := false

def roundStrike (value : ℚ) (strikeStep : Int) : Int :=
  ⌊value / strikeStep + 1 / 2⌋ * strikeStep

def candidateOf (quote : ReferenceQuote) (value : ℚ) (strikeStep : Int) (source reason : String)
    (basis : Option BasisState) : AtmReferenceCandidate where
  value
  roundedStrike := roundStrike value strikeStep
  source
  observedAt := quote.observedAt.getD 0
  freshness := quote.freshness
  basisValue := basis.bind (·.median)
  basisAsOf := basis.bind (·.observedAt)
  basisContract := basis.map (·.esContract)
  reason

def stableCandidate (stable : StableAtmState) (reason : String) : AtmReferenceCandidate where
  value := stable.roundedStrike
  roundedStrike := stable.roundedStrike
  source := "stable_atm"
  observedAt := stable.observedAt
  freshness := "stable"
  reason

def staleBootstrapSource : String := "SPX_stale_bootstrap"

def freshQuote (quote : Option ReferenceQuote) : Option ReferenceQuote := quote.filter (·.isFresh)

variable (controller : AtmReferenceController)

/-- The stale quote that may be used once. -/
def staleBootstrap (spx : Option ReferenceQuote) : Option ReferenceQuote :=
  if controller.stableAtm.isSome || controller.staleSpxBootstrapUsed then none
  else spx.filter fun quote =>
    quote.freshness = "stale" && validPrice quote.value && quote.observedAt.isSome

/-- The first source in order of authority. -/
def chooseCandidate (inputs : ResolveInputs) (validBasis : Option BasisState) :
    Option AtmReferenceCandidate :=
  let step := inputs.strikeStep
  let cash := fun (quote : ReferenceQuote) (factor : ℚ) source reason =>
    candidateOf quote (quote.value.getD 0 * factor) step source reason none
  let spx := if inputs.isRth then freshQuote inputs.spx else none
  let ibus500 := if inputs.isRth then none else freshQuote inputs.ibus500
  let adjusted := (freshQuote inputs.es).bind fun es => validBasis.map fun basis =>
    candidateOf es (es.value.getD 0 - basis.median.getD 0) step "ES_basis_adj"
      "fresh_es_with_persisted_rth_basis" (some basis)
  let parity := if inputs.isRth then none else freshQuote inputs.optionReference
  let rollover := if inputs.expiryRollover then controller.stableAtm else none
  let recovery := if inputs.stableAtmRecovery then controller.stableAtm else none
  (spx.map fun quote => cash quote 1 "SPX" "rth_fresh_spx_authoritative")
    <|> (ibus500.map fun quote => cash quote 1 "IBUS500" "off_hours_fresh_cash_proxy")
    <|> adjusted
    <|> (parity.map fun quote =>
      cash quote 1 "SPXW_parity" "fresh_option_pairs_subscription_reference")
    <|> ((freshQuote inputs.spy).map fun quote => cash quote 10 "SPY*10" "fresh_spy_cash_proxy")
    <|> (rollover.map fun stable => stableCandidate stable "expiry_rollover_stable_atm")
    <|> (recovery.map fun stable => stableCandidate stable "same_expiry_stable_atm_recovery")
    <|> (staleBootstrap controller inputs.spx).map fun quote =>
      cash quote 1 staleBootstrapSource "one_time_stale_spx_bootstrap"

/-- The result and the controller afterwards; no result for a strike step that is not positive. -/
def resolve (inputs : ResolveInputs) : Option AtmReferenceResult × AtmReferenceController :=
  if inputs.strikeStep ≤ 0 then (none, controller)
  else
    let basis := observe controller.basis inputs.spx inputs.es inputs.isRth inputs.tradingDate
    let validBasis := validState basis (inputs.es.bind (·.contract)) inputs.tradingDaysSinceBasis
    let candidate := chooseCandidate controller inputs validBasis
    (some {
      candidate
      stableAtm := controller.stableAtm
      basis := validBasis
      reason := (candidate.map (·.reason)).getD "no_eligible_reference" },
      { controller with basis })

/-- The fallback is used up only once its plan is installed. -/
def recordAccepted (candidate : AtmReferenceCandidate) (expiry : Option (List Char)) :
    AtmReferenceController :=
  { controller with
    staleSpxBootstrapUsed :=
      candidate.source = staleBootstrapSource || controller.staleSpxBootstrapUsed
    stableAtm := some {
      roundedStrike := candidate.roundedStrike
      source := candidate.source
      observedAt := candidate.observedAt
      expiry } }

/-! ## The file -/

structure StatePayload where
  schemaVersion : Nat
  basis : Option BasisState
  stableAtm : Option StableAtmState
  staleSpxBootstrapUsed : Bool

def statePayload : StatePayload where
  schemaVersion := stateSchemaVersion
  basis := controller.basis
  stableAtm := controller.stableAtm
  staleSpxBootstrapUsed := controller.staleSpxBootstrapUsed

/-- Each sample comes later than the one before. -/
def samplesIncrease : Bool :=
  (samples.zip samples.tail).all fun pair => pair.1.observedAt < pair.2.observedAt

/-- Each sample is near the median of those before it in the list. -/
def deviationsBounded (earlier : List BasisObservation) : List BasisObservation → Bool
  | [] => true
  | current :: rest =>
    (earlier = [] || |current.value - median (sampleValues earlier)| ≤
      basisMaxMedianDeviationPoints) && deviationsBounded (earlier ++ [current]) rest

/-- The summaries of a basis agree with the samples they summarize. -/
def summariesAgree (state : BasisState) : Bool :=
  state.sampleCount = state.samples.length &&
    state.sampleWindowStart = state.samples.head?.map (·.observedAt) &&
    state.observedAt = state.samples.getLast?.map (·.observedAt) &&
    if qualifies state.samples then
      state.median.any fun value => |value - median (sampleValues state.samples)| ≤ 1 / 10 ^ 9
    else state.median.isNone

/-- A basis that the loader takes. -/
def basisAccepted (state : BasisState) : Bool :=
  state.samples ≠ [] && samplesIncrease state.samples && deviationsBounded [] state.samples &&
    state.samples.all (fun sample => |sample.value| ≤ basisMaxAbsPoints) &&
    (sampleSpan state.samples).any (· ≤ basisWindowSeconds) &&
    state.esContract ≠ "" && summariesAgree state

variable (digit : Char → Bool)

/-- `expiry is None or expiry.isdigit()`. -/
def expiryAccepted (expiry : Option (List Char)) : Bool :=
  expiry.all fun text => text ≠ [] && text.all digit

def stableAccepted (state : StableAtmState) : Bool :=
  0 < state.roundedStrike && state.source ≠ "" && expiryAccepted digit state.expiry

/-- The loader: one failed check and nothing of the file is kept. -/
def loadState (file : Option StatePayload) : AtmReferenceController :=
  match file with
  | none => {}
  | some payload =>
    if payload.schemaVersion = stateSchemaVersion ∧
      payload.basis.all basisAccepted = true ∧
      payload.stableAtm.all (stableAccepted digit) = true then {
        basis := payload.basis
        stableAtm := payload.stableAtm
        staleSpxBootstrapUsed := payload.staleSpxBootstrapUsed }
    else {}

/-! ## The controller and its file -/

structure AtmStore where
  controller : AtmReferenceController := {}
  file : Option StatePayload := none

inductive AtmAction
  | resolve (inputs : ResolveInputs)
  | recordAccepted (candidate : AtmReferenceCandidate) (expiry : Option (List Char))
  | restart

def AtmStore.persist (store : AtmStore) : AtmStore :=
  { store with file := some (statePayload store.controller) }

/-- One step: the basis is written when it changed, an acceptance always. -/
def atmStep (store : AtmStore) : AtmAction → Option AtmReferenceResult × AtmStore
  | .resolve inputs =>
    let outcome := resolve store.controller inputs
    let next := { store with controller := outcome.2 }
    (outcome.1,
      if outcome.2.basis ≠ store.controller.basis then next.persist else next)
  | .recordAccepted candidate expiry =>
    (none,
      { store with controller := recordAccepted store.controller candidate expiry }.persist)
  | .restart => (none, { store with controller := loadState digit store.file })

end SpxSpark.Ibkr
