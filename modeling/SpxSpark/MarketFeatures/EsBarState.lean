import Mathlib.Data.List.DropRight
import Mathlib.Data.List.MinMax
import Mathlib.Data.List.Sort
import SpxSpark.Lib.Clock

/-!
# EsBarState — five-minute ES bars from a sampled quote

One call takes one normalized market sample. The sample is rejected, which only leaves a trace in
the diagnostics, or its observation extends the open bar of its five-minute bucket or closes that
bar and opens the next one.
-/

namespace SpxSpark.MarketFeatures

def intervalSeconds : ℕ := 300
def maxClosedBars : ℕ := 432
def maxRthMaBars : ℕ := 320
def minOkSamples : ℕ := 20
def maxOkGapSeconds : ℚ := 30
def maxEdgeGapSeconds : ℚ := 30
def futureToleranceSeconds : ℚ := 5

/-! ## Samples and states -/

inductive MarketSessionSegment
  | asia
  | europe
  | usPremarket
  | rth
  | curb
  | maintenance
  deriving DecidableEq

/-- What the state asks of the trading day: the segment and the New York date of an instant. -/
structure SessionClock where
  sessionSegment : Instant → MarketSessionSegment
  tradingDateEt : Instant → String

/-- The entry `future:ES` of a sample, each field as its reader leaves it. -/
structure EsQuote where
  sourceAt : Option Instant := none
  price : Option ℚ := none
  provider : Option String := none
  contractIdentity : Option String := none

structure EsSample where
  quote : Option EsQuote
  /-- The contract identities under `es_by_provider`. -/
  providerIdentities : List (Option String) := []

/-- What an accepted sample says. -/
structure EsObservation where
  sourceAt : Instant
  price : ℚ
  provider : String
  contractIdentity : Option String

/-- The qualities `open`, `ok` and `partial`. -/
inductive BarQuality
  | openBar
  | okBar
  | partialBar
  deriving DecidableEq

structure EsBar where
  barStart : Instant
  barEnd : Instant
  intervalSeconds : ℕ
  openPrice : ℚ
  high : ℚ
  low : ℚ
  close : ℚ
  sampleCount : ℕ
  firstSourceAt : Instant
  lastSourceAt : Instant
  maxSampleGapSeconds : ℚ
  providerCounts : List (String × ℕ)
  provider : String
  contractIdentity : Option String
  contractIdentityAmbiguous : Bool
  segment : MarketSessionSegment
  tradingDateEt : String
  gapBefore : Bool
  quality : BarQuality
  leadingEdgeGapSeconds : Option ℚ := none
  trailingEdgeGapSeconds : Option ℚ := none

/-- A row of the moving-average history. -/
structure CompactBar where
  barStart : Instant
  barEnd : Instant
  intervalSeconds : ℕ
  openPrice : ℚ
  high : ℚ
  low : ℚ
  close : ℚ
  quality : BarQuality
  gapBefore : Bool
  segment : MarketSessionSegment
  tradingDateEt : String
  contractIdentity : Option String
  contractIdentityAmbiguous : Bool
  maHistorySource : Option String

structure ContractReset where
  at' : Instant
  fromIdentity : String
  toIdentity : String

structure EsDiagnostics where
  lastRejection : Option String := none
  lastRejectionAt : Option Instant := none
  closedBarCount : ℕ := 0
  rthMaBarCount : ℕ := 0
  contractReset : Option ContractReset := none

structure EsBarState where
  updatedAt : Option Instant := none
  lastSourceAt : Option Instant := none
  lastProvider : Option String := none
  contractIdentity : Option String := none
  currentBar : Option EsBar := none
  closedBars : List EsBar := []
  rthMaHistory : List CompactBar := []
  diagnostics : EsDiagnostics := {}

/-! ## Rows -/

/-- The rows of the right interval, in the order of their starts. -/
def barRows {R : Type} (start : R → Instant) (interval : R → ℕ) (rows : List R) : List R :=
  (rows.filter fun row => interval row = intervalSeconds).insertionSort
    fun a b => start a ≤ start b

/-- A row put in the place of any row of the same start. -/
def upsert {R : Type} (start : R → Instant) (rows : List R) (row : R) : List R :=
  (rows.filter (fun r => start r ≠ start row) ++ [row]).insertionSort fun a b => start a ≤ start b

def closedRows (rows : List EsBar) : List EsBar := barRows (·.barStart) (·.intervalSeconds) rows

def upsertClosed (rows : List EsBar) (bar : EsBar) : List EsBar := upsert (·.barStart) rows bar

/-- The rows by start time, a newer row in the place of an older one. -/
def mergeBars (older newer : List CompactBar) : List CompactBar :=
  (older ++ newer).foldl (upsert (·.barStart)) []

def rthMaRows (rows : List CompactBar) : List CompactBar :=
  (barRows (·.barStart) (·.intervalSeconds) rows).filter fun row => row.segment = .rth

def compactRthBar (row : EsBar) : CompactBar where
  barStart := row.barStart
  barEnd := row.barEnd
  intervalSeconds := row.intervalSeconds
  openPrice := row.openPrice
  high := row.high
  low := row.low
  close := row.close
  quality := row.quality
  gapBefore := row.gapBefore
  segment := row.segment
  tradingDateEt := row.tradingDateEt
  contractIdentity := row.contractIdentity
  contractIdentityAmbiguous := row.contractIdentityAmbiguous
  maHistorySource := none

/-! ## Bars -/

/-- The start of the bucket of an instant. `int(…)` drops the fraction of a second towards zero. -/
def bucketStart (at' : Instant) : Instant :=
  let stamp := at'.tdiv 1000000
  (stamp - stamp % intervalSeconds) * 1000000

def bucketEnd (start : Instant) : Instant := start + timedelta intervalSeconds

def newBar (clock : SessionClock) (o : EsObservation) (gapBefore ambiguous : Bool) : EsBar where
  barStart := bucketStart o.sourceAt
  barEnd := bucketEnd (bucketStart o.sourceAt)
  intervalSeconds := MarketFeatures.intervalSeconds
  openPrice := o.price
  high := o.price
  low := o.price
  close := o.price
  sampleCount := 1
  firstSourceAt := o.sourceAt
  lastSourceAt := o.sourceAt
  maxSampleGapSeconds := 0
  providerCounts := [(o.provider, 1)]
  provider := o.provider
  contractIdentity := o.contractIdentity
  contractIdentityAmbiguous := ambiguous
  segment := clock.sessionSegment o.sourceAt
  tradingDateEt := clock.tradingDateEt o.sourceAt
  gapBefore := gapBefore
  quality := .openBar

/-- The counts with one more of a provider, in the order the providers were first seen. -/
def countProvider (counts : List (String × ℕ)) (provider : String) : List (String × ℕ) :=
  if counts.any (·.1 = provider) then
    counts.map fun entry => if entry.1 = provider then (provider, entry.2 + 1) else entry
  else counts ++ [(provider, 1)]

/-- The provider with the most observations, the first seen of several. -/
def leadingProvider (counts : List (String × ℕ)) (default : String) : String :=
  ((counts.argmax (·.2)).map (·.1)).getD default

/-- An observation makes a bar's contract unknown when the bar's already is, when only one of the
two is known, or when both are and differ. -/
def mixesContracts (current : EsBar) (identity : Option String) : Bool :=
  current.contractIdentityAmbiguous ||
    (current.contractIdentity.isSome != identity.isSome) ||
    (current.contractIdentity.isSome && identity ≠ current.contractIdentity)

def addObservation (current : EsBar) (o : EsObservation) : EsBar :=
  let counts := countProvider current.providerCounts o.provider
  let mixed := mixesContracts current o.contractIdentity
  { current with
    high := max current.high o.price
    low := min current.low o.price
    close := o.price
    sampleCount := current.sampleCount + 1
    lastSourceAt := o.sourceAt
    maxSampleGapSeconds :=
      max current.maxSampleGapSeconds (max (secondsBetween o.sourceAt current.lastSourceAt) 0)
    providerCounts := counts
    provider := leadingProvider counts o.provider
    contractIdentity := if mixed then none else current.contractIdentity
    contractIdentityAmbiguous := mixed || current.contractIdentityAmbiguous }

/-- The bar has enough samples, no wide gap inside or at its edges, and one contract. -/
def isOk (current : EsBar) : Bool :=
  let leadingGap := secondsBetween current.firstSourceAt current.barStart
  let trailingGap := secondsBetween current.barEnd current.lastSourceAt
  minOkSamples ≤ current.sampleCount && current.maxSampleGapSeconds ≤ maxOkGapSeconds &&
    !current.contractIdentityAmbiguous &&
    (0 ≤ leadingGap && leadingGap ≤ maxEdgeGapSeconds) &&
    (0 ≤ trailingGap && trailingGap ≤ maxEdgeGapSeconds)

def finalizeBar (current : EsBar) : EsBar :=
  { current with
    leadingEdgeGapSeconds := some (secondsBetween current.firstSourceAt current.barStart)
    trailingEdgeGapSeconds := some (secondsBetween current.barEnd current.lastSourceAt)
    quality := if isOk current then .okBar else .partialBar }

/-! ## One call -/

/-- `value or None` on a text. -/
def known (identity : Option String) : Option String := identity.filter (· ≠ "")

def providerContractIdentityConflict (sample : EsSample) : Bool :=
  1 < (sample.providerIdentities.filterMap known).dedup.length

/-- The source time and the price of a quote, or the reason for which the sample is rejected. -/
def rejectionReason (sourceAt : Option Instant) (price : Option ℚ) (now : Instant)
    (lastSourceAt : Option Instant) : Except String (Instant × ℚ) :=
  match sourceAt with
  | none => .error "es_source_timestamp_missing"
  | some sourceAt =>
    match price with
    | none => .error "es_price_missing_or_invalid"
    | some price =>
      if price ≤ 0 then .error "es_price_missing_or_invalid"
      else if now + timedelta futureToleranceSeconds < sourceAt then
        .error "es_source_timestamp_future"
      else if lastSourceAt.any (sourceAt ≤ ·) then
        .error "es_source_timestamp_duplicate_or_out_of_order"
      else .ok (sourceAt, price)

/-- The observation of a sample, or the reason for which it is rejected. -/
def observe (state : EsBarState) (sample : EsSample) (now : Instant) :
    Except String EsObservation :=
  let quote := sample.quote.getD {}
  let contractIdentity := known quote.contractIdentity
  if providerContractIdentityConflict sample && contractIdentity.isNone then
    .error "es_contract_identity_provider_conflict"
  else do
    let (sourceAt, price) ← rejectionReason quote.sourceAt quote.price now state.lastSourceAt
    return {
      sourceAt
      price
      provider := (known quote.provider).getD "unknown"
      contractIdentity }

variable (state : EsBarState) (now : Instant)

def withDiagnostic (rejection : String) : EsBarState :=
  { state with
    diagnostics :=
      { state.diagnostics with
        lastRejection := some rejection
        lastRejectionAt := some now
        closedBarCount := (closedRows state.closedBars).length
        rthMaBarCount := (rthMaRows state.rthMaHistory).length } }

/-- The contract of the state and another one, when the observation carries another one. -/
def contractReset (o : EsObservation) : Option ContractReset :=
  match known state.contractIdentity, o.contractIdentity with
  | some old, some new => if new = old then none else some ⟨now, old, new⟩
  | _, _ => none

/-- The state an observation is added to: the one before it, or a new one for another contract. -/
def stateFor (o : EsObservation) : EsBarState :=
  match contractReset state now o with
  | some reset => { diagnostics := { contractReset := some reset } }
  | none => state

/-- The bars after an observation: the open bar, the closed bars, the moving-average history. -/
def advanceBars (clock : SessionClock) (state : EsBarState) (previousIdentity : Option String)
    (o : EsObservation) : EsBar × List EsBar × List CompactBar :=
  let closed := closedRows state.closedBars
  let rthMaHistory :=
    (mergeBars (rthMaRows state.rthMaHistory)
      ((closed.filter fun row => row.segment = .rth).map compactRthBar)).rtake maxRthMaBars
  let ambiguous := previousIdentity.isSome && o.contractIdentity.isNone
  match state.currentBar with
  | none => (newBar clock o false ambiguous, closed, rthMaHistory)
  | some current =>
    if current.barStart = bucketStart o.sourceAt then
      (addObservation current o, closed, rthMaHistory)
    else
      let finalized := finalizeBar current
      let closed := upsertClosed closed finalized
      let rthMaHistory :=
        if finalized.segment = .rth then
          (mergeBars rthMaHistory [compactRthBar finalized]).rtake maxRthMaBars
        else rthMaHistory
      let gapBefore :=
        decide (bucketEnd current.barStart < bucketStart o.sourceAt) ||
          decide (finalized.quality ≠ .okBar)
      (newBar clock o gapBefore ambiguous, closed, rthMaHistory)

def accept (clock : SessionClock) (state : EsBarState) (now : Instant) (o : EsObservation) :
    EsBarState :=
  let previousIdentity := known state.contractIdentity
  let state := stateFor state now o
  let (current, closed, rthMaHistory) := advanceBars clock state previousIdentity o
  { updatedAt := some now
    lastSourceAt := some o.sourceAt
    lastProvider := some o.provider
    contractIdentity := o.contractIdentity <|> previousIdentity
    currentBar := some current
    closedBars := closed.rtake maxClosedBars
    rthMaHistory
    diagnostics :=
      { state.diagnostics with
        lastRejection := none
        closedBarCount := (closed.rtake maxClosedBars).length
        rthMaBarCount := rthMaHistory.length } }

def advanceEsBarState (clock : SessionClock) (previous : Option EsBarState) (sample : EsSample)
    (now : Instant) : EsBarState :=
  let state := previous.getD {}
  match observe state sample now with
  | .error rejection => withDiagnostic state now rejection
  | .ok o => accept clock state now o

end SpxSpark.MarketFeatures
