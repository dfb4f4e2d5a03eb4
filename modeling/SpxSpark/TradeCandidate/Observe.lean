import SpxSpark.TradeIntent.Authority

/-!
# Observe — what a candidate meets in the market

A candidate is an intent that waits for its entry quote; it never stands for an order. One look at
the market may find its time over, its target or its invalidation reached, or its contract offered
at the limit or below.
-/

namespace SpxSpark.TradeCandidate

open Lib Strategy TradeIntent

/-! ## Phases -/

inductive CandidatePhase
  | observing | armed | quoteReachedEntry | targetPassed | invalidated | expired | superseded
  deriving DecidableEq

/-- `phase in TERMINAL_PHASES`. -/
def CandidatePhase.terminal : CandidatePhase → Bool
  | .observing => false
  | .armed => false
  | _ => true

inductive TerminalReason
  | newTradeCandidateSupersededPriorCandidate
  | entryWindowExpired
  | targetReachedBeforeEntryQuote
  | invalidationReachedBeforeEntryQuote
  | entryQuoteReached
  deriving DecidableEq

/-! ## Displayed quotes -/

structure DisplayedQuote where
  provider : Text
  bid : Option ℚ
  mid : Option ℚ
  ask : Option ℚ
  quality : Text
  quoteTime : Option Instant
  lastUpdateAt : Option Instant
  receivedAt : Instant
  /-- `quote_use_decision` at the time of the look, and its reason. -/
  pricingAllowed : Bool
  useReason : Text

inductive QuoteReason
  | sourceTimestampUnavailable
  | sourceTimestampInFuture
  | transportTimestampInFuture
  | sourceStale
  | transportStale
  | notLive
  | invalidNbbo
  | notPricingAllowed (reason : Text)
  | fresh
  deriving DecidableEq

/-- `PUT_SHADOW_EXACT_QUOTE_MAX_AGE_SECONDS`. -/
def exactQuoteMaxAgeSeconds : ℚ := 15

def DisplayedQuote.transportAt (quote : DisplayedQuote) : Instant :=
  quote.lastUpdateAt.getD quote.receivedAt

/-- `0 <= bid <= mid <= ask`, all three given. -/
def validNbbo (quote : DisplayedQuote) : Bool :=
  match quote.bid, quote.mid, quote.ask with
  | some bid, some mid, some ask => 0 ≤ bid ∧ bid ≤ mid ∧ mid ≤ ask
  | _, _, _ => false

/-- `candidate_displayed_quote_decision`: the reason, `fresh` where the quote is allowed. -/
def candidateDisplayedQuoteDecision (quote : DisplayedQuote) (now : Instant) (maxAge : ℚ) :
    QuoteReason :=
  match quote.quoteTime with
  | none => .sourceTimestampUnavailable
  | some sourceAt =>
    let sourceAge := secondsBetween now sourceAt
    let transportAge := secondsBetween now quote.transportAt
    if sourceAge < 0 then .sourceTimestampInFuture
    else if transportAge < 0 then .transportTimestampInFuture
    else if maxAge < sourceAge then .sourceStale
    else if maxAge < transportAge then .transportStale
    else if quote.quality ≠ "live".toList then .notLive
    else if !validNbbo quote then .invalidNbbo
    else if !quote.pricingAllowed then .notPricingAllowed quote.useReason
    else .fresh

/-! ## Candidates -/

/-- What a look at the market found. -/
structure Observation where
  at_ : Instant
  spx : Option ℚ
  contractId : Option JsonValue
  entryLimit : Option JsonValue
  /-- The quote of the contract, and whether it is allowed. -/
  quote : Option (DisplayedQuote × QuoteReason)
  /-- `displayed_ask_at_or_below_limit`. -/
  entryCondition : Bool

structure Candidate where
  candidateId : Text
  validUntil : Option Instant
  /-- The intent as it was; the direction, the levels and the contract are copied from it. -/
  sourceIntent : Members
  armedAt : Instant
  lastObservedAt : Option Instant := none
  lastObservation : Option Observation := none

def Candidate.member (name : String) (candidate : Candidate) : Option JsonValue :=
  TradeIntent.member name candidate.sourceIntent

/-- The market, as one call finds it. -/
structure MarketView where
  /-- `actionable_live_price` of the index. -/
  spx : Option ℚ
  /-- The best quote of a contract among those of one provider. -/
  bestFrom : Text → Text → Option DisplayedQuote
  bestQuote : Text → Option DisplayedQuote

/-! ## Levels -/

inductive Level
  | finite (value : ℚ)
  | infinity (negative : Bool)

/-- `level <= price`. -/
def Level.atMost (price : ℚ) : Level → Bool
  | .finite value => value ≤ price
  | .infinity negative => negative

/-- `price <= level`. -/
def Level.atLeast (price : ℚ) : Level → Bool
  | .finite value => price ≤ value
  | .infinity negative => !negative

/-- `_number`. -/
def number : Option JsonValue → Except PyError (Option Level)
  | some (.bool value) => .ok (some (.finite (if value then 1 else 0)))
  | some (.int value) =>
    match Float64.ofInt value with
    | some value => .ok (some (.finite value))
    | none => .error .overflowError
  | some (.float value) => .ok (some (.finite value))
  | some (.infinity negative) => .ok (some (.infinity negative))
  | _ => .ok none

def up : Text := "up".toList

def down : Text := "down".toList

/-- `_level_reached`. -/
def levelReached (spot : Option ℚ) (level : Option Level) (direction : Text) (target : Bool) :
    Bool :=
  match spot, level with
  | some spot, some level =>
    -- A target lies ahead, an invalidation behind.
    if direction = up then if target then level.atMost spot else level.atLeast spot
    else if direction = down then if target then level.atLeast spot else level.atMost spot
    else false
  | _, _ => false

/-! ## One look -/

variable (py : PyTools)

/-- The values of `Provider`. -/
def providers : List Text :=
  ["ibkr".toList, "schwab".toList, "hyperliquid".toList, "polymarket".toList, "internal".toList,
    "mock".toList, "unknown".toList]

/-- The quote that the candidate's contract is judged by. -/
def quoteOf (candidate : Candidate) (market : MarketView) : Option DisplayedQuote :=
  let contractId := strOr py (candidate.member "contract_id") []
  let provider := strOr py (candidate.member "provider") []
  if contractId = [] then none
  else if provider ∈ providers then market.bestFrom provider contractId
  else market.bestQuote contractId

/-- The ask is at the limit or below. -/
def entryReached (quote : DisplayedQuote) (entryLimit : Option Level) : Bool :=
  match entryLimit, quote.ask with
  | some limit, some ask => limit.atLeast ask
  | _, _ => false

/-- `_advance_active`. A candidate of this lane has `shadow_mode` false, so the window of the shadow
lanes is never asked for. -/
def advanceActive (candidate : Candidate) (market : MarketView) (now : Instant) :
    Except PyError (CandidatePhase × Option TerminalReason × Observation) := do
  let direction := strOr py (candidate.member "direction") []
  let target ← number (candidate.member "target_spx")
  let invalidation ← number (candidate.member "invalidation_spx")
  let seen : Observation :=
    { at_ := now, spx := market.spx, contractId := candidate.member "contract_id"
      entryLimit := candidate.member "entry_limit", quote := none, entryCondition := false }
  if candidate.validUntil.all fun stop => stop ≤ now then
    .ok (.expired, some .entryWindowExpired, seen)
  else if levelReached market.spx target direction true then
    .ok (.targetPassed, some .targetReachedBeforeEntryQuote, seen)
  else if levelReached market.spx invalidation direction false then
    .ok (.invalidated, some .invalidationReachedBeforeEntryQuote, seen)
  else do
    let entryLimit ← number (candidate.member "entry_limit")
    match quoteOf py candidate market with
    | none => .ok (.armed, none, seen)
    | some quote =>
      let reason := candidateDisplayedQuoteDecision quote now exactQuoteMaxAgeSeconds
      if reason = .fresh ∧ entryReached quote entryLimit then
        .ok (.quoteReachedEntry, some .entryQuoteReached,
          { seen with quote := some (quote, reason), entryCondition := true })
      else .ok (.armed, none, { seen with quote := some (quote, reason) })

end SpxSpark.TradeCandidate
