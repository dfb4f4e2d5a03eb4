import Mathlib.Data.List.MinMax
import SpxSpark.Lib.Clock
import SpxSpark.Lib.Text

/-!
# MarketHealth — when a provider counts as healthy

The latest market state as the failover controller reads it, and the three health questions it asks:
is the transport up, are the required anchors fresh, and is the overnight option surface covered.
-/

namespace SpxSpark.Providers

open Lib

/-! ## The latest market state -/

inductive Provider
  | ibkr
  | schwab
  | hyperliquid
  | polymarket
  | internal
  | mock
  | unknown
  deriving DecidableEq

inductive InstrumentType
  | index
  | equity
  | etf
  | future
  | option
  | cfd
  | cryptoPerp
  | predictionMarket
  | unknown
  deriving DecidableEq

inductive OptionRight
  | call
  | put
  deriving DecidableEq

inductive MarketDataQuality
  | live
  | frozen
  | delayed
  | delayedFrozen
  | synthetic
  | stale
  | unknown
  | missing
  | error
  deriving DecidableEq

def MarketDataQuality.value : MarketDataQuality → String
  | .live => "live"
  | .frozen => "frozen"
  | .delayed => "delayed"
  | .delayedFrozen => "delayed_frozen"
  | .synthetic => "synthetic"
  | .stale => "stale"
  | .unknown => "unknown"
  | .missing => "missing"
  | .error => "error"

inductive ProviderStatus
  | available
  | degraded
  | unavailable
  | unknown
  deriving DecidableEq

def ProviderStatus.value : ProviderStatus → String
  | .available => "available"
  | .degraded => "degraded"
  | .unavailable => "unavailable"
  | .unknown => "unknown"

/-- An instrument with the two identifiers the source derives from its other fields. -/
structure InstrumentId where
  canonicalId : String
  familyId : String
  instrumentType : InstrumentType
  expiry : Option String := none
  strike : Option ℚ := none
  right : Option OptionRight := none
  tradingClass : Option String := none

structure Quote where
  instrument : InstrumentId
  provider : Provider
  receivedAt : Int
  quality : MarketDataQuality
  bid : Option ℚ := none
  ask : Option ℚ := none
  last : Option ℚ := none
  mark : Option ℚ := none
  close : Option ℚ := none
  quoteTime : Option Int := none
  tradeTime : Option Int := none
  lastUpdateAt : Option Int := none
  marketDataType : Option String := none

structure ProviderState where
  provider : Provider
  status : ProviderStatus
  checkedAt : Int
  reason : Option String := none
  connected : Option Bool := none
  authenticated : Option Bool := none

structure LatestState where
  asOf : Int
  quotes : List Quote
  providerStates : List ProviderState := []

/-- `first_present`: the first price above zero. -/
def firstPresent (values : List (Option ℚ)) : Option ℚ :=
  (values.filterMap id).find? (0 < ·)

def Quote.mid (quote : Quote) : Option ℚ :=
  match quote.bid, quote.ask with
  | some bid, some ask =>
    if ask ≤ 0 ∨ ask < bid then none
    else if quote.instrument.instrumentType = .option then
      if bid < 0 then none else some ((bid + ask) / 2)
    else if bid ≤ 0 then none
    else some ((bid + ask) / 2)
  | _, _ => none

def Quote.effectivePrice (quote : Quote) : Option ℚ :=
  firstPresent [quote.mark, quote.mid, quote.last, quote.close]

/-- The clock a quote is aged by. -/
def Quote.sourceAt (quote : Quote) : Int :=
  (quote.quoteTime <|> quote.tradeTime <|> quote.lastUpdateAt).getD quote.receivedAt

/-- The qualities no health check accepts. -/
def MarketDataQuality.badFeed : MarketDataQuality → Bool
  | .frozen | .delayed | .delayedFrozen | .missing | .error | .unknown | .synthetic => true
  | .live | .stale => false

def instrumentMatchesId (instrument : InstrumentId) (requestedId : String) : Bool :=
  instrument.canonicalId == requestedId ||
    instrument.instrumentType == .future && instrument.familyId == requestedId

/-! ## Health -/

structure ProviderHealth where
  healthy : Bool
  reason : String

-- the order is named because Mathlib has a second one on the integers, which does not compute
/-- `max(items, key=at)`: of two items at one time, the first listed. -/
def latestBy {α : Type} (at_ : α → Int) (items : List α) : Option α :=
  @List.argmax α Int Int.instLinearOrder.toPreorder inferInstance at_ items

/-- The last check of a provider. -/
def latestProviderState (state : LatestState) (provider : Provider) : Option ProviderState :=
  latestBy (·.checkedAt) (state.providerStates.filter (·.provider = provider))

def latestQuoteForProvider (state : LatestState) (instrumentId : String) (provider : Provider) :
    Option Quote :=
  latestBy (·.receivedAt) (state.quotes.filter fun quote =>
    instrumentMatchesId quote.instrument instrumentId && quote.provider = provider)

section Health

variable (ageText : ℚ → String) (state : LatestState) (provider : Provider)

/-- A reason that is not empty, or the text that stands in for it. -/
def reasonOr (reason : Option String) (fallback : String) : String :=
  match reason with
  | some text => if text = "" then fallback else text
  | none => fallback

def transportHealth (providerStateMaxAgeSeconds : ℚ) : ProviderHealth :=
  match latestProviderState state provider with
  | none => ⟨false, "provider state missing"⟩
  | some latest =>
    let age := secondsBetween state.asOf latest.checkedAt
    if ¬(0 ≤ age ∧ age ≤ providerStateMaxAgeSeconds) then
      ⟨false, "provider state age " ++ ageText age ++ "s"⟩
    else if latest.connected = some false then
      ⟨false, reasonOr latest.reason "transport disconnected"⟩
    else if latest.authenticated = some false then
      ⟨false, reasonOr latest.reason "provider authentication failed"⟩
    else
      ⟨true, "transport connected and authenticated (" ++ latest.status.value ++ ")"⟩

/-- A recent check that reports the provider degraded or unavailable. -/
def reportedDown (providerStateMaxAgeSeconds : ℚ) : Option ProviderState :=
  (latestProviderState state provider).filter fun latest =>
    decide (0 ≤ secondsBetween state.asOf latest.checkedAt) &&
      decide (secondsBetween state.asOf latest.checkedAt ≤ providerStateMaxAgeSeconds) &&
      (latest.status == .degraded || latest.status == .unavailable)

/-- A quote that is not a live anchor price. -/
def rejectedAnchor (quoteMaxAgeSeconds : ℚ) (quote : Quote) : Bool :=
  let age := secondsBetween state.asOf quote.sourceAt
  quote.effectivePrice.isNone ||
    containsText "delayed".toList (quote.marketDataType.getD "").toLower.toList ||
    quote.quality.badFeed || decide (age < 0) || decide (quoteMaxAgeSeconds < age)

def providerHealth (requiredInstruments : List String) (providerStateMaxAgeSeconds : ℚ)
    (quoteMaxAgeSeconds : ℚ) : ProviderHealth :=
  match reportedDown state provider providerStateMaxAgeSeconds with
  | some latest => ⟨false, reasonOr latest.reason "provider degraded or unavailable"⟩
  | none =>
    let missing := requiredInstruments.filter fun id =>
      (latestQuoteForProvider state id provider).isNone
    let rejected := requiredInstruments.filterMap fun id =>
      ((latestQuoteForProvider state id provider).filter
        (rejectedAnchor state quoteMaxAgeSeconds)).map fun quote =>
          id ++ ":age=" ++ ageText (secondsBetween state.asOf quote.sourceAt) ++ ":quality=" ++
            quote.quality.value
    if missing ≠ [] then ⟨false, "missing " ++ ",".intercalate missing⟩
    else if rejected ≠ [] then ⟨false, "unusable " ++ ",".intercalate rejected⟩
    else ⟨true, "required live anchors are fresh"⟩

/-- The quotes of the provider's SPXW surface for the session's expiry that are live and fresh. -/
def gthSurface (expiry : String) (quoteMaxAgeSeconds : ℚ) : List (ℚ × OptionRight × String) :=
  state.quotes.filterMap fun quote =>
    match quote.instrument.strike, quote.instrument.right with
    | some strike, some right =>
      let age := secondsBetween state.asOf quote.sourceAt
      if quote.provider = provider ∧
          (quote.instrument.tradingClass.getD "").toUpper = "SPXW" ∧
          quote.instrument.expiry = some expiry ∧ quote.effectivePrice.isSome ∧
          ¬quote.quality.badFeed ∧ 0 ≤ age ∧ age ≤ quoteMaxAgeSeconds then
        some (strike, right, quote.instrument.canonicalId)
      else none
    | _, _ => none

def gthOptionHealth (expiry : String) (minContracts : Nat) (quoteMaxAgeSeconds : ℚ) :
    ProviderHealth :=
  let surface := gthSurface state provider expiry quoteMaxAgeSeconds
  let contracts := (surface.map (·.2.2)).dedup.length
  let strikes := (surface.map (·.1)).dedup
  let completePairs := (strikes.filter fun strike =>
    surface.any (fun row => row.1 = strike && row.2.1 = .call) &&
      surface.any (fun row => row.1 = strike && row.2.1 = .put)).length
  let requiredPairs := max (minContracts / 2) 1
  if contracts < minContracts ∨ completePairs < requiredPairs then
    ⟨false, "GTH SPXW coverage " ++ toString contracts ++ "/" ++ toString minContracts ++
      " contracts, " ++ toString completePairs ++ "/" ++ toString requiredPairs ++
      " complete pairs"⟩
  else
    ⟨true, "GTH live ES plus " ++ toString contracts ++ " SPXW contracts/" ++
      toString completePairs ++ " pairs"⟩

end Health

end SpxSpark.Providers
