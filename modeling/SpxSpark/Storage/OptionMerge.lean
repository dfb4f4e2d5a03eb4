import Mathlib.Data.Char
import Mathlib.Data.Int.ConditionallyCompleteOrder
import Mathlib.Data.List.Lex
import SpxSpark.Lib.Clock
import SpxSpark.Lib.DictParts
import SpxSpark.Lib.JsonValue
import SpxSpark.Lib.Text

/-!
# OptionMerge — two observations of one option become one

An option's price, Greeks and open interest are observed at different times, so each group is taken
from the row that has the later one, and the merged row says in `raw` where each came from and when
it was observed.
-/

namespace SpxSpark.Storage

open Lib

/-! ## Observations -/

inductive Provider
  | ibkr | schwab | hyperliquid | polymarket | internal | mock | unknown
  deriving DecidableEq

def Provider.value : Provider → Text
  | ibkr => "ibkr".toList
  | schwab => "schwab".toList
  | hyperliquid => "hyperliquid".toList
  | polymarket => "polymarket".toList
  | internal => "internal".toList
  | mock => "mock".toList
  | unknown => "unknown".toList

inductive MarketDataQuality
  | live | frozen | delayed | delayedFrozen | synthetic | stale | unknown | missing | error
  deriving DecidableEq

def MarketDataQuality.value : MarketDataQuality → Text
  | live => "live".toList
  | frozen => "frozen".toList
  | delayed => "delayed".toList
  | delayedFrozen => "delayed_frozen".toList
  | synthetic => "synthetic".toList
  | stale => "stale".toList
  | unknown => "unknown".toList
  | missing => "missing".toList
  | error => "error".toList

structure InstrumentId where
  canonicalId : Text
  isOption : Bool
  expiry : Option Text := none
  deriving DecidableEq

structure OptionGreeks where
  impliedVol : Option ℚ := none
  delta : Option ℚ := none
  gamma : Option ℚ := none
  theta : Option ℚ := none
  vega : Option ℚ := none
  rho : Option ℚ := none
  underlierPrice : Option ℚ := none
  model : Option Text := none

abbrev Raw := Dict Text JsonValue

/-- The fields that a merge takes from one row together: the prices and their times. -/
structure PriceFields where
  quality : MarketDataQuality
  bid : Option ℚ := none
  ask : Option ℚ := none
  last : Option ℚ := none
  mark : Option ℚ := none
  close : Option ℚ := none
  bidSize : Option ℚ := none
  askSize : Option ℚ := none
  lastSize : Option ℚ := none
  quoteTime : Option Instant := none
  tradeTime : Option Instant := none
  lastUpdateAt : Option Instant := none

structure Quote extends PriceFields where
  instrument : InstrumentId
  provider : Provider
  receivedAt : Instant
  volume : Option ℚ := none
  openInterest : Option ℚ := none
  structureTime : Option Instant := none
  marketDataType : Option JsonValue := none
  greeks : Option OptionGreeks := none
  samplingMode : Option Text := none
  raw : Raw := ∅

/-- `first_present`. -/
def firstPresent (values : List (Option ℚ)) : Option ℚ :=
  (values.filterMap id).find? fun value => decide (0 < value)

def Quote.mid (quote : Quote) : Option ℚ :=
  match quote.bid, quote.ask with
  | some bid, some ask =>
    if ask ≤ 0 || ask < bid then none
    else if quote.instrument.isOption then if bid < 0 then none else some ((bid + ask) / 2)
    else if bid ≤ 0 then none
    else some ((bid + ask) / 2)
  | _, _ => none

def Quote.effectivePrice (quote : Quote) : Option ℚ :=
  firstPresent [quote.mark, quote.mid, quote.last, quote.close]

def Quote.hasPrice (quote : Quote) : Bool := quote.effectivePrice.isSome

/-! ## Values of `raw` -/

/-- What the merge asks of Python about the values it finds in `raw`. -/
structure RawReader where
  isoformat : Instant → Text
  /-- `parse_timestamp`. -/
  parseTimestamp : JsonValue → Option Instant
  parse_isoformat : ∀ time, parseTimestamp (.string (isoformat time)) = some time
  /-- `str(value)`. -/
  str : JsonValue → Text
  /-- `str.lower`. -/
  lower : Text → Text
  /-- `str.isalnum` of one character. -/
  isalnum : Char → Bool
  /-- `int(value)`, where that does not raise. -/
  int : JsonValue → Option Int

inductive Field
  | pricing | greeks | openInterest
  deriving DecidableEq

def Field.name : Field → Text
  | pricing => "pricing".toList
  | greeks => "greeks".toList
  | openInterest => "open_interest".toList

/-- `f"{field}_{part}"`. -/
def Field.key (field : Field) (part : String) : Text := field.name ++ '_' :: part.toList

variable (reader : RawReader)

def qualityFromMarketDataType (value : Option JsonValue) : Option MarketDataQuality :=
  value.bind fun value =>
    match reader.int value with
    | some 1 => some .live
    | some 2 => some .frozen
    | some 3 => some .delayed
    | some 4 => some .delayedFrozen
    | some _ => none
    | none =>
      let text := reader.lower (stripChars (reader.str value))
      if text = "live".toList then some .live
      else if text = "frozen".toList then some .frozen
      else if text = "delayed".toList then some .delayed
      else if text = "delayed-frozen".toList || text = "delayed_frozen".toList then
        some .delayedFrozen
      else none

/-- `bool_or_none`. -/
def boolOrNone : JsonValue → Option Bool
  | .bool value => some value
  | .int value => if value = 0 then some false else if value = 1 then some true else none
  | .float value => if value = 0 then some false else if value = 1 then some true else none
  | .string value =>
    let normalized := reader.lower (stripChars value)
    if ["true".toList, "1".toList, "yes".toList].contains normalized then some true
    else if ["false".toList, "0".toList, "no".toList].contains normalized then some false
    else none
  | .null | .infinity _ | .array _ | .object _ => none

/-- `generic_delayed`. -/
def genericDelayed (raw : Raw) : Option Bool :=
  let values := raw.entries.filterMap fun entry =>
    let normalized := (reader.lower entry.1).filter reader.isalnum
    if ["isdelayed".toList, "delayed".toList].contains normalized then boolOrNone reader entry.2
    else none
  if true ∈ values then some true else if false ∈ values then some false else none

/-- `value or default`, of a value that may be missing. -/
def orElse (value : Option JsonValue) (fallback : JsonValue) : JsonValue :=
  match value with
  | none => fallback
  | some value => if value.truthy then value else fallback

/-- A value that is there and not `None`. -/
def present (value : Option JsonValue) : Option JsonValue :=
  value.filter fun value => !value.isNull

/-! ## Clocks -/

def epoch : Instant := 0

/-- `pricing_time`. -/
def pricingTime (quote : Quote) : Instant :=
  (quote.quoteTime <|> quote.tradeTime).getD quote.receivedAt

/-- The clock that `raw` states for a field. -/
def explicitTime (quote : Quote) (field : Field) : Option Instant :=
  (quote.raw.lookup (field.key "observed_at")).bind reader.parseTimestamp

/-- `field_time`. -/
def fieldTime (quote : Quote) (field : Field) : Instant :=
  match explicitTime reader quote field with
  | some explicit => explicit
  | none =>
    -- a value that another provider observed is as old as can be
    if (present (quote.raw.lookup (field.key "provider"))).any
        fun provider => decide (reader.str provider ≠ quote.provider.value) then epoch
    else
      match quote.structureTime with
      | some time => time
      | none =>
        if field ∈ [Field.greeks, Field.openInterest] && quote.provider = .ibkr &&
            quote.samplingMode.isSome then epoch
        else quote.receivedAt

/-- `pricing_observed_at`. -/
def pricingObservedAt (quote : Quote) : Instant :=
  (explicitTime reader quote .pricing <|> quote.lastUpdateAt).getD quote.receivedAt

/-- The key by which the row with the better price is found. -/
structure PricingKey where
  hasPrice : Bool
  pricedAt : Instant
  observedAt : Instant
  hasMid : Bool
  deriving DecidableEq

def pricingKey (quote : Quote) : PricingKey where
  hasPrice := quote.hasPrice
  pricedAt := pricingTime quote
  observedAt := pricingObservedAt reader quote
  hasMid := quote.mid.isSome

/-- Keys are compared member by member. -/
def PricingKey.less (a b : PricingKey) : Bool :=
  if a.hasPrice ≠ b.hasPrice then b.hasPrice
  else if a.pricedAt ≠ b.pricedAt then a.pricedAt < b.pricedAt
  else if a.observedAt ≠ b.observedAt then a.observedAt < b.observedAt
  else !a.hasMid && b.hasMid

/-! ## Provenance -/

def optionValue {α : Type} (encode : α → JsonValue) (value : Option α) : JsonValue :=
  (value.map encode).getD .null

def isFrozenOrDelayed (quality : Option MarketDataQuality) : Bool :=
  quality = some .frozen || quality = some .delayed || quality = some .delayedFrozen

/-- Whether a field may be used as live, and by what. -/
def liveEntitlement (quote : Quote) (field : Field) (provider : Text)
    (marketDataType : Option JsonValue) (explicitDelayed : Option Bool) :
    Option Bool × Option JsonValue :=
  let sameProvider : Bool := provider = quote.provider.value
  let stated := (quote.raw.lookup (field.key "live_entitlement")).bind (boolOrNone reader)
  let feedMode := qualityFromMarketDataType reader marketDataType
  let because := fun text : Text => some (JsonValue.string text)
  if explicitDelayed = some true then (some false, because "explicit_delayed".toList)
  else if isFrozenOrDelayed feedMode then
    (some false, because ("market_data_type_".toList ++ (feedMode.map (·.value)).getD []))
  else if sameProvider && isFrozenOrDelayed (some quote.quality) then
    (some false, because ("quality_".toList ++ quote.quality.value))
  else if stated.isNone && explicitDelayed = some false then
    (some true, because (if provider = Provider.schwab.value then
      "schwab_explicit_not_delayed".toList else "explicit_not_delayed".toList))
  else if stated.isNone && feedMode = some .live then
    (some true, because "market_data_type_live".toList)
  else if stated.isNone && sameProvider && quote.quality = .live then
    (some true, because "quality_live".toList)
  else (stated, quote.raw.lookup (field.key "live_entitlement_source"))

/-- `field_provenance`. -/
def fieldProvenance (quote : Quote) (field : Field) (observedAt : Instant)
    (sourceAt : Option Instant) : Raw :=
  let raw := quote.raw
  let provider := reader.str (orElse (raw.lookup (field.key "provider"))
    (.string quote.provider.value))
  let sameProvider : Bool := provider = quote.provider.value
  let sampling := present (raw.lookup (field.key "sampling_mode")) <|>
    if sameProvider then quote.samplingMode.map .string else none
  let marketDataType := present (raw.lookup (field.key "market_data_type")) <|>
    if sameProvider then quote.marketDataType else none
  let explicitDelayed := (raw.lookup (field.key "explicit_delayed")).bind (boolOrNone reader) <|>
    if sameProvider then genericDelayed reader raw else none
  let (entitlement, entitlementSource) :=
    liveEntitlement reader quote field provider marketDataType explicitDelayed
  let source := (sourceAt.map fun time =>
    (AList.singleton (field.key "source_at") (JsonValue.string (reader.isoformat time)) :
      Raw)).getD ∅
  source
    |>.insert (field.key "provider") (.string provider)
    |>.insert (field.key "sampling_mode") (optionValue id sampling)
    |>.insert (field.key "market_data_type") (optionValue id marketDataType)
    |>.insert (field.key "explicit_delayed") (optionValue .bool explicitDelayed)
    |>.insert (field.key "live_entitlement") (optionValue .bool entitlement)
    |>.insert (field.key "live_entitlement_source") (optionValue id entitlementSource)
    |>.insert (field.key "observed_at") (.string (reader.isoformat observedAt))

/-! ## The merge -/

inductive MergeError
  | differentInstruments
  | differentProviders
  deriving DecidableEq

/-- `max((left, right), key=…)` by a key that may be missing: the first of the largest. -/
def latestWith (time : Quote → Option Instant) (left right : Quote) : Option Quote :=
  match time left, time right with
  | some l, some r => some (if l < r then right else left)
  | some _, none => some left
  | none, some _ => some right
  | none, none => none

def greeksTime (quote : Quote) : Option Instant :=
  quote.greeks.map fun _ => fieldTime reader quote .greeks

def openInterestTime (quote : Quote) : Option Instant :=
  quote.openInterest.map fun _ => fieldTime reader quote .openInterest

/-- The provenance of a source's field, where there is a source. -/
def sourceProvenance (source : Option Quote) (field : Field) : Raw :=
  (source.map fun quote =>
    fieldProvenance reader quote field (fieldTime reader quote field) none).getD ∅

/-- `merge_option_observations`. -/
def mergeOptionObservations (left right : Quote) : Except MergeError Quote :=
  if left.instrument.canonicalId ≠ right.instrument.canonicalId then .error .differentInstruments
  else if left.provider ≠ right.provider then .error .differentProviders
  else
    let pricing := if (pricingKey reader left).less (pricingKey reader right) then right else left
    let greekSource := latestWith (greeksTime reader) left right
    let oiSource := latestWith (openInterestTime reader) left right
    let latestReceived := max left.receivedAt right.receivedAt
    let raw := pricing.raw
      |>.update (fieldProvenance reader pricing .pricing (pricingObservedAt reader pricing)
        (some (pricingTime pricing)))
      |>.update (sourceProvenance reader greekSource .greeks)
      |>.update (sourceProvenance reader oiSource .openInterest)
    let structureTimes := (greekSource.map (fieldTime reader · .greeks)).toList ++
      (oiSource.map (fieldTime reader · .openInterest)).toList
    if structureTimes = [] then .ok { pricing with receivedAt := latestReceived, raw }
    else
      .ok { pricing with
        receivedAt := latestReceived
        openInterest := oiSource.bind (·.openInterest)
        greeks := greekSource.bind (·.greeks)
        structureTime := structureTimes.max?
        volume := pricing.volume <|> oiSource.bind (·.volume)
        raw }

end SpxSpark.Storage
