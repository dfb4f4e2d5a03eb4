import SpxSpark.Domain.Validation

/-!
# Market — providers, quotes, quote batches and option snapshots

Every contract keeps its own `validate`; prices are exact rationals, so a comparison of two prices
here is the comparison of the two floating-point values they stand for. A snapshot is what the core
makes of the batches, and what a decision is made from.
-/

namespace SpxSpark.Domain

def quoteBatchSchemaVersion : String := "quote_batch.v1"
def analyticalSnapshotSchemaVersion : String := "analytical_option_snapshot.v1"
def providerStateSchemaVersion : String := "provider_state.v1"

/-- Days since the Unix epoch. -/
abbrev NaiveDate := Int

/-- A finite, strictly positive number. -/
abbrev PositiveF64 := { q : Rat // 0 < q }

/-- A finite, non-negative number. -/
abbrev NonNegativeF64 := { q : Rat // 0 ≤ q }

inductive Provider
  | schwab
  | ibkr
  deriving DecidableEq

inductive MarketSession
  | rth
  | gth
  deriving DecidableEq

inductive QuoteBatchMode
  | incremental
  | replaceProviderSnapshot
  deriving DecidableEq

inductive OperationalState
  | starting
  | live
  | degraded
  | externalSessionOwns
  | backoff
  | unavailable
  deriving DecidableEq

inductive TransportState
  | connected
  | disconnected
  deriving DecidableEq

inductive AuthenticationState
  | authenticated
  | unauthenticated
  deriving DecidableEq

inductive EntitlementState
  | live
  | delayed
  | frozen
  | missing
  deriving DecidableEq

inductive ProviderReasonCode
  | healthy
  | starting
  | transportDisconnected
  | authenticationUnavailable
  | entitlementUnavailable
  | competingSession10197
  | staleFlush
  | rateLimited
  | providerError
  deriving DecidableEq

/-- What a provider says of its own connection. -/
structure ProviderStateV1 where
  schemaVersion : String
  provider : Provider
  observedAt : DateTime
  operational : OperationalState
  transport : TransportState
  authentication : AuthenticationState
  entitlement : EntitlementState
  reasonCodes : List ProviderReasonCode
  latencyMs : Option NonNegativeF64
  connectionGeneration : Nat
  deriving DecidableEq

def ProviderStateV1.isLive (s : ProviderStateV1) : Bool :=
  s.operational == .live && s.transport == .connected &&
    s.authentication == .authenticated && s.entitlement == .live

def ProviderStateV1.validate (s : ProviderStateV1) : Except DomainError Unit := do
  requireSchema s.schemaVersion providerStateSchemaVersion "provider state"
  require (s.reasonCodes.dedup.length = s.reasonCodes.length) (.duplicate "provider reason_codes")
  require (s.operational = .externalSessionOwns → .competingSession10197 ∈ s.reasonCodes)
    (.invalid "provider reason_codes" "external session ownership requires 10197 evidence")
  require (s.operational = .externalSessionOwns → s.provider = .ibkr)
    (.invalid "provider" "external session ownership applies only to IBKR")
  require (s.connectionGeneration ≠ 0) (.invalid "connection_generation" "must be positive")
  require (s.operational = .live → s.isLive = true)
    (.invalid "provider state" "live operational state requires live transport and entitlement")
  require (s.isLive = true → s.reasonCodes = [.healthy])
    (.invalid "provider reason_codes" "live provider must contain only healthy")
  require (s.isLive = false → .healthy ∉ s.reasonCodes)
    (.invalid "provider reason_codes" "healthy reason requires a live provider")

inductive QuoteQuality
  | live
  | delayed
  | frozen
  deriving DecidableEq

inductive InstrumentKind
  | index
  | equity
  | future
  | option
  deriving DecidableEq

inductive OptionRight
  | call
  | put
  deriving DecidableEq

structure OptionContractV1 where
  contractId : Token
  underlier : Token
  tradingClass : Token
  expiry : NaiveDate
  strike : PositiveF64
  right : OptionRight
  multiplier : Nat
  deriving DecidableEq

def OptionContractV1.validate (c : OptionContractV1) : Except DomainError Unit :=
  require (c.multiplier ≠ 0) (.invalid "multiplier" "must be positive")

structure BookSideV1 where
  price : PositiveF64
  sourceAt : DateTime
  receivedAt : DateTime
  deriving DecidableEq

def BookSideV1.validate (s : BookSideV1) : Except DomainError Unit :=
  require (s.sourceAt ≤ s.receivedAt) (.timeOrder "book side received_at precedes source_at")

/-- A quote as a provider sends it. -/
structure QuoteV1 where
  quoteId : Token
  provider : Provider
  instrumentId : Token
  instrumentKind : InstrumentKind
  marketSession : MarketSession
  quality : QuoteQuality
  option : Option OptionContractV1
  bid : Option BookSideV1
  ask : Option BookSideV1
  last : Option BookSideV1
  deriving DecidableEq

namespace QuoteV1

def exactContractId (q : QuoteV1) : Option Token := q.option.map (·.contractId)

/-- The contract a quote is about: its option contract, or the instrument itself. -/
def identity (q : QuoteV1) : Token := q.exactContractId.getD q.instrumentId

/-- The sides a quote carries, in the order they are checked. -/
def sides (q : QuoteV1) : List BookSideV1 := q.bid.toList ++ q.ask.toList ++ q.last.toList

/-- An option instrument carries a valid contract, any other instrument none. -/
def validateOption (q : QuoteV1) : Except DomainError Unit :=
  match q.instrumentKind, q.option with
  | .option, some option => option.validate
  | .option, none => .error (.invalid "option" "option instrument requires a contract")
  | _, some _ => .error (.invalid "option" "non-option instrument cannot contain a contract")
  | _, none => .ok ()

def validateCrossed (q : QuoteV1) : Except DomainError Unit :=
  match q.bid, q.ask with
  | some bid, some ask =>
    require (bid.price.val ≤ ask.price.val) (.invalid "quote" "crossed market is forbidden")
  | _, _ => .ok ()

def validate (q : QuoteV1) : Except DomainError Unit := do
  require (¬ (q.bid = none ∧ q.ask = none ∧ q.last = none))
    (.invalid "quote" "at least one observed price is required")
  q.sides.forM BookSideV1.validate
  q.validateOption
  q.validateCrossed

end QuoteV1

/-- Quotes of one provider, numbered within a connection. -/
structure QuoteBatchV1 where
  schemaVersion : String
  batchId : Token
  provider : Provider
  mode : QuoteBatchMode
  sequence : Nat
  receivedAt : DateTime
  providerState : ProviderStateV1
  quotes : List QuoteV1
  deriving DecidableEq

namespace QuoteBatchV1

/-- The checks a batch makes on one of its quotes. -/
def validateQuote (b : QuoteBatchV1) (q : QuoteV1) : Except DomainError Unit := do
  q.validate
  require (q.provider = b.provider) .providerMismatch
  q.sides.forM fun side => require (side.receivedAt ≤ b.receivedAt)
    (.timeOrder "quote side received_at is after batch received_at")

/-- What must be unique within a batch. -/
def quoteIdentities (b : QuoteBatchV1) : List (Provider × MarketSession × Token) :=
  b.quotes.map fun q => (q.provider, q.marketSession, q.identity)

def validate (b : QuoteBatchV1) : Except DomainError Unit := do
  requireSchema b.schemaVersion quoteBatchSchemaVersion "quote batch"
  b.providerState.validate
  require (b.providerState.provider = b.provider) .providerMismatch
  require (b.providerState.observedAt ≤ b.receivedAt)
    (.timeOrder "provider state is after batch received_at")
  uniqueTokens (b.quotes.map (·.quoteId)) "quote_id"
  b.quotes.forM b.validateQuote
  require (b.quoteIdentities.dedup.length = b.quotes.length)
    (.duplicate "quote identity within provider session")

theorem validate_ok {b : QuoteBatchV1} (h : b.validate = .ok ()) :
    b.providerState.validate = .ok () ∧ b.providerState.provider = b.provider ∧
      ∀ q ∈ b.quotes, q.validate = .ok () ∧ q.provider = b.provider := by
  simp only [validate, check_bind_ok, forM_ok, require_ok] at h
  obtain ⟨-, hstate, hprovider, -, -, hquotes, -⟩ := h
  refine ⟨hstate, hprovider, fun q hq => ?_⟩
  have hcheck := hquotes q hq
  simp only [validateQuote, check_bind_ok, require_ok] at hcheck
  obtain ⟨hvalid, hsame, -⟩ := hcheck
  exact ⟨hvalid, hsame⟩

end QuoteBatchV1

/-- The quotes of a session at one time, under a digest. -/
structure AnalyticalOptionSnapshotV1 (D : Type) where
  schemaVersion : String
  snapshotId : Token
  session : MarketSession
  builtAt : DateTime
  sourceBatchIds : List Token
  providerStates : List ProviderStateV1
  quotes : List QuoteV1
  provenanceHash : D

namespace AnalyticalOptionSnapshotV1

variable {D : Type}

def validateState (s : AnalyticalOptionSnapshotV1 D) (state : ProviderStateV1) :
    Except DomainError Unit := do
  state.validate
  require (state.observedAt ≤ s.builtAt) (.timeOrder "provider state is after snapshot built_at")

def validateQuote (s : AnalyticalOptionSnapshotV1 D) (q : QuoteV1) : Except DomainError Unit := do
  q.validate
  require (q.marketSession = s.session)
    (.invalid "market_session" "snapshot cannot mix sessions")

def validate (s : AnalyticalOptionSnapshotV1 D) : Except DomainError Unit := do
  requireSchema s.schemaVersion analyticalSnapshotSchemaVersion "analytical option snapshot"
  require (s.sourceBatchIds ≠ [])
    (.invalid "source_batch_ids" "snapshot requires at least one source batch")
  uniqueTokens s.sourceBatchIds "source batch id"
  require ((s.providerStates.map (·.provider)).dedup.length = s.providerStates.length)
    (.duplicate "snapshot provider state")
  s.providerStates.forM s.validateState
  uniqueTokens (s.quotes.map (·.quoteId)) "snapshot quote_id"
  s.quotes.forM s.validateQuote

theorem validate_ok {s : AnalyticalOptionSnapshotV1 D} : s.validate = .ok () ↔
    s.schemaVersion = analyticalSnapshotSchemaVersion ∧ s.sourceBatchIds ≠ [] ∧
      s.sourceBatchIds.Nodup ∧ (s.providerStates.map (·.provider)).Nodup ∧
      (∀ state ∈ s.providerStates, state.validate = .ok () ∧ state.observedAt ≤ s.builtAt) ∧
      (s.quotes.map (·.quoteId)).Nodup ∧
      ∀ q ∈ s.quotes, q.validate = .ok () ∧ q.marketSession = s.session := by
  have hdistinct : (s.providerStates.map (·.provider)).dedup.length = s.providerStates.length ↔
      (s.providerStates.map (·.provider)).Nodup := by
    rw [← dedup_length, List.length_map]
  simp only [validate, requireSchema, validateState, validateQuote, check_bind_ok, require_ok,
    uniqueTokens_ok, forM_ok, hdistinct]

end AnalyticalOptionSnapshotV1

end SpxSpark.Domain
