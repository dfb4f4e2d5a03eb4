import SpxSpark.Domain.Strategy
import Mathlib.Data.List.Sort
import Mathlib.Data.List.Destutter
import Mathlib.Tactic.Linarith
import Mathlib.Tactic.Positivity

/-!
# Readiness — may a requested vertical be shown as a manual candidate?

`assessReadiness` picks the provider of the session, finds both exact legs among its quotes and
gathers every reason against them.
-/

namespace SpxSpark.Core

open Domain List

structure ReadinessConfig where
  quoteMaxAgeSeconds : Rat
  maxSideSkewSeconds : Rat
  allowRthIbkrFallback : Bool

/-- An `expect` that does not hold. -/
inductive Panic
  | expect (message : String)

/-- `NonNegativeF64::new`. -/
def nonNegativeF64 (value : Rat) (field : String) : Except DomainError NonNegativeF64 :=
  if h : 0 ≤ value then .ok ⟨value, h⟩ else .error (.negative field)

/-- `Result::expect`. -/
def expect {ε α : Type} (result : Except ε α) (message : String) : Except Panic α :=
  result.mapError fun _ => .expect message

/-! ## Time -/

def secondsBetween (later earlier : DateTime) : Rat := ((later - earlier : Int) : Rat) / 1000000000

theorem secondsBetween_nonneg {later earlier : DateTime} :
    0 ≤ secondsBetween later earlier ↔ earlier ≤ later := by
  rw [secondsBetween, le_div_iff₀ (by norm_num), zero_mul, Int.cast_nonneg_iff, Int.sub_nonneg]

theorem secondsBetween_le {a b c d : DateTime} (h : a - b ≤ c - d) :
    secondsBetween a b ≤ secondsBetween c d := by
  rw [secondsBetween, secondsBetween, div_le_div_iff_of_pos_right (by norm_num), Int.cast_le]
  exact h

/-- The time from the first to the last of some instants. -/
def spanSeconds (first : DateTime) (rest : List DateTime) : Rat :=
  secondsBetween (rest.foldl max first) (rest.foldl min first)

theorem le_foldl_max {t : DateTime} : ∀ {rest : List DateTime} {first : DateTime},
    t ∈ first :: rest → t ≤ rest.foldl max first
  | [], first, h => by
      rw [mem_singleton] at h
      exact h.le
  | x :: rest, first, h => by
      rw [foldl_cons]
      have hfirst : max first x ≤ rest.foldl max (max first x) := le_foldl_max (mem_cons_self ..)
      rcases mem_cons.mp h with rfl | h
      · exact (le_max_left _ _).trans hfirst
      · rcases mem_cons.mp h with rfl | h
        · exact (le_max_right _ _).trans hfirst
        · exact le_foldl_max (mem_cons_of_mem _ h)

theorem foldl_min_le {t : DateTime} : ∀ {rest : List DateTime} {first : DateTime},
    t ∈ first :: rest → rest.foldl min first ≤ t
  | [], first, h => by
      rw [mem_singleton] at h
      exact h.ge
  | x :: rest, first, h => by
      rw [foldl_cons]
      have hfirst : rest.foldl min (min first x) ≤ min first x := foldl_min_le (mem_cons_self ..)
      rcases mem_cons.mp h with rfl | h
      · exact hfirst.trans (min_le_left _ _)
      · rcases mem_cons.mp h with rfl | h
        · exact hfirst.trans (min_le_right _ _)
        · exact foldl_min_le (mem_cons_of_mem _ h)

theorem secondsBetween_le_span {first : DateTime} {rest : List DateTime} {s t : DateTime}
    (hs : s ∈ first :: rest) (ht : t ∈ first :: rest) :
    secondsBetween s t ≤ spanSeconds first rest := by
  have hmax := le_foldl_max hs
  have hmin := foldl_min_le ht
  rw [spanSeconds]
  exact secondsBetween_le (Int.sub_le_sub hmax hmin)

theorem spanSeconds_nonneg (first : DateTime) (rest : List DateTime) :
    0 ≤ spanSeconds first rest := by
  have hfirst : first ∈ first :: rest := mem_cons_self ..
  exact secondsBetween_nonneg.mpr ((foldl_min_le hfirst).trans (le_foldl_max hfirst))

/-! ## Block reasons -/

/-- `sort` and `dedup`. -/
def sortedReasons (reasons : List StrategyBlockReason) : List StrategyBlockReason :=
  (reasons.insertionSort fun a b => a.ctorIdx ≤ b.ctorIdx).dedup

variable {reasons : List StrategyBlockReason}

theorem mem_sortedReasons {reason : StrategyBlockReason} :
    reason ∈ sortedReasons reasons ↔ reason ∈ reasons := by
  rw [sortedReasons, mem_dedup, mem_insertionSort]

theorem sortedReasons_eq_nil : sortedReasons reasons = [] ↔ reasons = [] := by
  rw [eq_nil_iff_forall_not_mem, eq_nil_iff_forall_not_mem]
  exact forall_congr' fun _ => not_congr mem_sortedReasons

theorem StrategyBlockReason.ctorIdx_inj {a b : StrategyBlockReason} (h : a.ctorIdx = b.ctorIdx) :
    a = b := by
  cases a <;> cases b <;> first | rfl | cases h

theorem sortedReasons_sorted (reasons : List StrategyBlockReason) :
    (sortedReasons reasons).Pairwise fun a b => a.ctorIdx < b.ctorIdx := by
  let le : StrategyBlockReason → StrategyBlockReason → Prop := fun a b => a.ctorIdx ≤ b.ctorIdx
  have htotal : Std.Total le := ⟨fun a b => Nat.le_total a.ctorIdx b.ctorIdx⟩
  have htrans : IsTrans StrategyBlockReason le := ⟨fun _ _ _ hab hbc => Nat.le_trans hab hbc⟩
  have hsorted : (reasons.insertionSort le).Pairwise le := pairwise_insertionSort le reasons
  have hweak := hsorted.sublist (dedup_sublist _)
  have hne := nodup_dedup (reasons.insertionSort le)
  refine hweak.imp₂ (fun a b hle hne => ?_) hne
  exact Nat.lt_of_le_of_ne hle fun h => hne (StrategyBlockReason.ctorIdx_inj h)

/-! ## The provider of a session -/

section
variable (request : EvaluationRequestV1) (processingAt : DateTime) (config : ReadinessConfig)

/-- An instant the decision may rest on. -/
structure Fresh (t : DateTime) : Prop where
  observed : t ≤ processingAt
  before_decision : t ≤ request.decisionAt
  age : secondsBetween request.decisionAt t ≤ config.quoteMaxAgeSeconds

/-- The check every instant goes through. -/
def isStale (t : DateTime) : Bool :=
  processingAt < t || secondsBetween request.decisionAt t < 0 ||
    config.quoteMaxAgeSeconds < secondsBetween request.decisionAt t

theorem isStale_eq_false {t : DateTime} :
    isStale request processingAt config t = false ↔ Fresh request processingAt config t := by
  simp only [isStale, Bool.or_eq_false_iff, decide_eq_false_iff_not, not_lt, secondsBetween_nonneg]
  constructor
  · rintro ⟨⟨hobserved, hbefore⟩, hage⟩
    exact ⟨hobserved, hbefore, hage⟩
  · rintro ⟨hobserved, hbefore, hage⟩
    exact ⟨⟨hobserved, hbefore⟩, hage⟩

variable {D : Type} (snapshot : AnalyticalOptionSnapshotV1 D)

/-- The providers a session may use, in order. -/
def requiredProviders : List Provider :=
  match request.session with
  | .gth => [.ibkr]
  | .rth => if config.allowRthIbkrFallback then [.schwab, .ibkr] else [.schwab]

def providerState (provider : Provider) : Option ProviderStateV1 :=
  snapshot.providerStates.find? (·.provider == provider)

/-- The loop of `select_provider`, with the reason it ends with when no provider is found. -/
def selectAmong : List Provider → Option Provider × List StrategyBlockReason
  | [] => (none, [.providerNotReady])
  | provider :: rest =>
    match providerState snapshot provider with
    | none => selectAmong rest
    | some state =>
      if isStale request processingAt config state.observedAt then selectAmong rest
      else if state.operational = .externalSessionOwns then
        if request.session = .gth then (none, [.providerExternalSessionOwns])
        else selectAmong rest
      else if state.operational = .live ∧ state.transport = .connected ∧
          state.entitlement = .live ∧ state.isLive = true then (some provider, [])
      else selectAmong rest

def selectProvider : Option Provider × List StrategyBlockReason :=
  selectAmong request processingAt config snapshot (requiredProviders request config)

/-- A provider one may quote from: required by the session, seen in time, and live. -/
structure ProviderReady (provider : Provider) : Prop where
  required : provider ∈ requiredProviders request config
  state : ∃ state, providerState snapshot provider = some state ∧
    Fresh request processingAt config state.observedAt ∧ state.isLive = true

variable {request processingAt config snapshot} in
theorem selectAmong_spec : ∀ {providers : List Provider},
    (∃ reason, selectAmong request processingAt config snapshot providers = (none, [reason])) ∨
      ∃ provider ∈ providers,
        selectAmong request processingAt config snapshot providers = (some provider, []) ∧
          ∃ state, providerState snapshot provider = some state ∧
            Fresh request processingAt config state.observedAt ∧ state.isLive = true
  | [] => .inl ⟨_, rfl⟩
  | provider :: rest => by
      have later : (∃ reason, selectAmong request processingAt config snapshot rest =
            (none, [reason])) ∨
          ∃ p ∈ provider :: rest, selectAmong request processingAt config snapshot rest =
              (some p, []) ∧
            ∃ state, providerState snapshot p = some state ∧
              Fresh request processingAt config state.observedAt ∧ state.isLive = true := by
        refine selectAmong_spec.imp id ?_
        rintro ⟨p, hp, hrest⟩
        exact ⟨p, mem_cons_of_mem _ hp, hrest⟩
      unfold selectAmong
      split
      · exact later
      · rename_i state hstate
        split
        · exact later
        · rename_i hstale
          rw [Bool.not_eq_true, isStale_eq_false] at hstale
          split
          · split
            · exact .inl ⟨_, rfl⟩
            · exact later
          · split
            · rename_i hlive
              exact .inr ⟨provider, mem_cons_self .., rfl, state, hstate, hstale,
                hlive.2.2.2⟩
            · exact later

variable {request processingAt config snapshot} in
theorem selectProvider_spec :
    (∃ reason, selectProvider request processingAt config snapshot = (none, [reason])) ∨
      ∃ provider, selectProvider request processingAt config snapshot = (some provider, []) ∧
        ProviderReady request processingAt config snapshot provider := by
  refine selectAmong_spec.imp id ?_
  rintro ⟨provider, hrequired, hselected, hstate⟩
  exact ⟨provider, hselected, hrequired, hstate⟩

end

/-! ## The exact legs -/

section
variable {D : Type} (request : EvaluationRequestV1) (snapshot : AnalyticalOptionSnapshotV1 D)
variable (processingAt : DateTime) (provider : Provider) (config : ReadinessConfig)

def findContract (contractId : Token) : Option QuoteV1 :=
  snapshot.quotes.find? fun quote =>
    quote.provider == provider && quote.exactContractId == some contractId

/-- Some other provider quotes one of the requested contracts. -/
def existsOtherProvider : Bool :=
  snapshot.quotes.any fun quote =>
    (quote.exactContractId == some request.longContractId ||
      quote.exactContractId == some request.shortContractId) && quote.provider != provider

/-- Points between the two strikes, counted the way the direction pays. -/
def contractWidth (long short : OptionContractV1) : Rat :=
  match request.direction with
  | .callVertical10 => short.strike.val - long.strike.val
  | .putVertical10 => long.strike.val - short.strike.val

/-- `f64::EPSILON`. -/
def f64Epsilon : Rat := 1 / 2 ^ 52

def validateContracts (long short : OptionContractV1) : List StrategyBlockReason :=
  (if long.expiry ≠ request.sessionDate ∨ short.expiry ≠ request.sessionDate then
      [.exactLegExpiryMismatch] else []) ++
  (if long.right ≠ request.direction.optionRight ∨ short.right ≠ request.direction.optionRight ∨
      long.underlier.value ≠ "SPX" ∨ short.underlier.value ≠ "SPX" ∨
      long.tradingClass.value ≠ "SPXW" ∨ short.tradingClass.value ≠ "SPXW" then
      [.exactLegContractMismatch] else []) ++
  (if f64Epsilon < |contractWidth request long short - 10| then [.invalidVertical] else [])

/-- One leg with both of its sides. -/
structure LegBook where
  contract : OptionContractV1
  bid : BookSideV1
  ask : BookSideV1

def sourceTimes (long short : LegBook) : List DateTime :=
  [long.bid.sourceAt, long.ask.sourceAt, short.bid.sourceAt, short.ask.sourceAt]

def receiptTimes (long short : LegBook) : List DateTime :=
  [long.bid.receivedAt, long.ask.receivedAt, short.bid.receivedAt, short.ask.receivedAt]

def sourceSkew (long short : LegBook) : Rat :=
  spanSeconds long.bid.sourceAt [long.ask.sourceAt, short.bid.sourceAt, short.ask.sourceAt]

def receiptSkew (long short : LegBook) : Rat :=
  spanSeconds long.bid.receivedAt
    [long.ask.receivedAt, short.bid.receivedAt, short.ask.receivedAt]

def maxSkew (long short : LegBook) : Rat := max (sourceSkew long short) (receiptSkew long short)

/-- What the sides of two legs add to the reasons. -/
def sideReasons (long short : LegBook) : List StrategyBlockReason :=
  (if long.ask.price.val ≤ long.bid.price.val ∨ short.ask.price.val ≤ short.bid.price.val then
      [.exactLegLockedOrCrossed] else []) ++
  ((sourceTimes long short ++ receiptTimes long short).filter
    (isStale request processingAt config)).map (fun _ => .exactLegStale) ++
  (if config.maxSideSkewSeconds < maxSkew long short then [.exactLegSkew] else [])

/-- The ages of the eight instants, the oldest of which the evidence keeps. -/
def ages (long short : LegBook) : List Rat :=
  (sourceTimes long short ++ receiptTimes long short).map (secondsBetween request.decisionAt)

/-- The evidence two legs leave behind. -/
def legEvidence (long short : LegBook) (maxAgeSeconds maxSkewSeconds : NonNegativeF64) :
    ExactLegEvidenceV1 where
  provider
  longContractId := request.longContractId
  shortContractId := request.shortContractId
  right := request.direction.optionRight
  longStrike := long.contract.strike
  shortStrike := short.contract.strike
  longBid := long.bid.price
  longAsk := long.ask.price
  shortBid := short.bid.price
  shortAsk := short.ask.price
  maxAgeSeconds
  maxSkewSeconds
  observedAt := request.decisionAt

/-- The end of `exact_leg_evidence`, reached only while there is no reason at all. -/
def debitEvidence (long short : LegBook) :
    Except Panic (Option ExactLegEvidenceV1 × List StrategyBlockReason) :=
  let debit := long.ask.price.val - short.bid.price.val
  if ¬ (0 ≤ debit ∧ debit < 10) ∨ debit = 0 then .ok (none, [.invalidVertical])
  else do
    let maxAgeSeconds ← expect
      (nonNegativeF64 ((ages request long short).foldl max 0) "max_age_seconds")
      "calculated age is finite and non-negative"
    let maxSkewSeconds ← expect (nonNegativeF64 (maxSkew long short) "max_skew_seconds")
      "calculated skew is finite and non-negative"
    .ok (some (legEvidence request provider long short maxAgeSeconds maxSkewSeconds), [])

def notLiveReasons (long short : QuoteV1) : List StrategyBlockReason :=
  if long.quality ≠ .live ∨ short.quality ≠ .live then [.exactLegNotLive] else []

/-- `exact_leg_evidence` once both quotes are found; `reasons` is the vector as it comes in. -/
def quoteEvidence (long short : QuoteV1) (reasons : List StrategyBlockReason) :
    Except Panic (Option ExactLegEvidenceV1 × List StrategyBlockReason) :=
  let reasons := reasons ++ notLiveReasons long short
  match long.option, short.option with
  | some longContract, some shortContract =>
    let reasons := reasons ++ validateContracts request longContract shortContract
    match long.bid, long.ask, short.bid, short.ask with
    | some longBid, some longAsk, some shortBid, some shortAsk =>
      let longBook := ⟨longContract, longBid, longAsk⟩
      let shortBook := ⟨shortContract, shortBid, shortAsk⟩
      let reasons := reasons ++ sideReasons request processingAt config longBook shortBook
      if reasons ≠ [] then .ok (none, reasons)
      else debitEvidence request provider longBook shortBook
    | _, _, _, _ => .ok (none, reasons ++ [.exactLegOneSided])
  | _, _ => .ok (none, reasons ++ [.exactLegContractMismatch])

def exactLegEvidence (reasons : List StrategyBlockReason) :
    Except Panic (Option ExactLegEvidenceV1 × List StrategyBlockReason) :=
  match findContract snapshot provider request.longContractId,
    findContract snapshot provider request.shortContractId with
  | some long, some short => quoteEvidence request processingAt provider config long short reasons
  | _, _ =>
    .ok (none, reasons ++ [if existsOtherProvider request snapshot provider then
      .exactLegWrongProvider else .exactLegMissing])

end

/-! ## The assessment -/

/-- Reasons in their order without repeats, and no evidence beside a reason. -/
structure ReadinessAssessment where
  provider : Option Provider
  exactLegs : Option ExactLegEvidenceV1
  blockReasons : List StrategyBlockReason
  sorted : blockReasons.Pairwise fun a b => a.ctorIdx < b.ctorIdx
  blocked : blockReasons ≠ [] → exactLegs = none

namespace ReadinessAssessment

/-- `normalize`, on the parts of an assessment. -/
def normalize (provider : Option Provider) (exactLegs : Option ExactLegEvidenceV1)
    (blockReasons : List StrategyBlockReason) : ReadinessAssessment where
  provider
  blockReasons := sortedReasons blockReasons
  exactLegs := if sortedReasons blockReasons ≠ [] then none else exactLegs
  sorted := sortedReasons_sorted blockReasons
  blocked h := if_pos h

def block (assessment : ReadinessAssessment) (reason : StrategyBlockReason) :
    ReadinessAssessment :=
  normalize assessment.provider assessment.exactLegs (assessment.blockReasons ++ [reason])

def ready (assessment : ReadinessAssessment) : Bool :=
  assessment.exactLegs.isSome && assessment.blockReasons.isEmpty

/-- An assessment names its reasons or holds its evidence. -/
def Settled (assessment : ReadinessAssessment) : Prop :=
  assessment.blockReasons ≠ [] ∨ ∃ legs, assessment.exactLegs = some legs

variable (assessment : ReadinessAssessment) (reason : StrategyBlockReason)

theorem blockReasons_block : (assessment.block reason).blockReasons ≠ [] := by
  intro h
  have hnil := sortedReasons_eq_nil.mp h
  exact append_ne_nil_of_right_ne_nil _ (cons_ne_nil _ _) hnil

theorem settled_block : (assessment.block reason).Settled :=
  .inl (blockReasons_block assessment reason)

theorem exactLegs_block : (assessment.block reason).exactLegs = none :=
  (assessment.block reason).blocked (blockReasons_block assessment reason)

theorem exactLegs_normalize {provider : Option Provider} {found : Option ExactLegEvidenceV1}
    {legs : ExactLegEvidenceV1} :
    (normalize provider found reasons).exactLegs = some legs ↔ reasons = [] ∧
      found = some legs := by
  show (if sortedReasons reasons ≠ [] then none else found) = some legs ↔ _
  by_cases h : reasons = []
  · rw [if_neg (not_not.mpr (sortedReasons_eq_nil.mpr h)), and_iff_right h]
  · rw [if_pos (mt sortedReasons_eq_nil.mp h)]
    exact iff_of_false (Option.some_ne_none legs).symm fun hfound => h hfound.1

theorem blockReasons_normalize {provider : Option Provider} {found : Option ExactLegEvidenceV1} :
    (normalize provider found reasons).blockReasons = [] ↔ reasons = [] :=
  sortedReasons_eq_nil

theorem ready_iff {assessment : ReadinessAssessment} :
    assessment.ready = true ↔ ∃ legs, assessment.exactLegs = some legs := by
  rw [ready, Bool.and_eq_true, Option.isSome_iff_exists, List.isEmpty_iff]
  constructor
  · exact And.left
  · rintro ⟨legs, hlegs⟩
    refine ⟨⟨legs, hlegs⟩, ?_⟩
    by_contra h
    rw [assessment.blocked h] at hlegs
    cases hlegs

end ReadinessAssessment

section
variable {D : Type} (request : EvaluationRequestV1) (snapshot : AnalyticalOptionSnapshotV1 D)
variable (processingAt : DateTime) (config : ReadinessConfig)

def assessReadiness : Except Panic ReadinessAssessment :=
  match selectProvider request processingAt config snapshot with
  | (none, reasons) => .ok (.normalize none none reasons)
  | (some provider, reasons) => do
    let (exactLegs, reasons) ←
      exactLegEvidence request snapshot processingAt provider config reasons
    .ok (.normalize (some provider) exactLegs reasons)

/-! ## What the evidence of an assessment rests on -/

/-- One leg of the evidence: a live, two-sided, fresh quote of the requested contract. -/
structure LegReady (provider : Provider) (contractId : Token) (leg : LegBook) : Prop where
  quote : ∃ quote, findContract snapshot provider contractId = some quote ∧
    quote.quality = .live ∧ quote.option = some leg.contract ∧ quote.bid = some leg.bid ∧
    quote.ask = some leg.ask
  expiry : leg.contract.expiry = request.sessionDate
  right : leg.contract.right = request.direction.optionRight
  underlier : leg.contract.underlier.value = "SPX"
  tradingClass : leg.contract.tradingClass.value = "SPXW"
  two_sided : leg.bid.price.val < leg.ask.price.val
  source_fresh : Fresh request processingAt config leg.bid.sourceAt ∧
    Fresh request processingAt config leg.ask.sourceAt
  receipt_fresh : Fresh request processingAt config leg.bid.receivedAt ∧
    Fresh request processingAt config leg.ask.receivedAt

/-- No two of the instants are further apart than the sides of a vertical may be. -/
def Together (times : List DateTime) : Prop :=
  ∀ s ∈ times, ∀ t ∈ times, secondsBetween s t ≤ config.maxSideSkewSeconds

/-- Everything the evidence of an assessment rests on. -/
structure Supported (legs : ExactLegEvidenceV1) (long short : LegBook) : Prop where
  evidence : legs = legEvidence request legs.provider long short legs.maxAgeSeconds
    legs.maxSkewSeconds
  provider : ProviderReady request processingAt config snapshot legs.provider
  long_ready :
    LegReady request snapshot processingAt config legs.provider request.longContractId long
  short_ready :
    LegReady request snapshot processingAt config legs.provider request.shortContractId short
  sources : Together config (sourceTimes long short)
  receipts : Together config (receiptTimes long short)
  width : |contractWidth request long.contract short.contract - 10| ≤ f64Epsilon
  debit : 0 < long.ask.price.val - short.bid.price.val ∧
    long.ask.price.val - short.bid.price.val < 10

end

section
variable {D : Type} {request : EvaluationRequestV1} {snapshot : AnalyticalOptionSnapshotV1 D}
variable {processingAt : DateTime} {provider : Provider} {config : ReadinessConfig}

theorem ite_singleton_eq_nil {α : Type} {p : Prop} [Decidable p] {a : α} :
    (if p then [a] else []) = [] ↔ ¬ p := by
  by_cases h : p <;> simp [h]

theorem validateContracts_eq_nil {long short : OptionContractV1} :
    validateContracts request long short = [] ↔
      (long.expiry = request.sessionDate ∧ short.expiry = request.sessionDate) ∧
      (long.right = request.direction.optionRight ∧ short.right = request.direction.optionRight ∧
        long.underlier.value = "SPX" ∧ short.underlier.value = "SPX" ∧
        long.tradingClass.value = "SPXW" ∧ short.tradingClass.value = "SPXW") ∧
      |contractWidth request long short - 10| ≤ f64Epsilon := by
  rw [validateContracts, append_eq_nil_iff, append_eq_nil_iff, ite_singleton_eq_nil,
    ite_singleton_eq_nil, ite_singleton_eq_nil, and_assoc]
  simp

theorem sideReasons_eq_nil {long short : LegBook} :
    sideReasons request processingAt config long short = [] ↔
      (long.bid.price.val < long.ask.price.val ∧ short.bid.price.val < short.ask.price.val) ∧
      (∀ t ∈ sourceTimes long short ++ receiptTimes long short,
        Fresh request processingAt config t) ∧ maxSkew long short ≤ config.maxSideSkewSeconds := by
  rw [sideReasons, append_eq_nil_iff, append_eq_nil_iff, ite_singleton_eq_nil,
    ite_singleton_eq_nil, map_eq_nil_iff, filter_eq_nil_iff, and_assoc]
  simp [isStale_eq_false]

theorem notLiveReasons_eq_nil {long short : QuoteV1} :
    notLiveReasons long short = [] ↔ long.quality = .live ∧ short.quality = .live := by
  rw [notLiveReasons, ite_singleton_eq_nil]
  simp

theorem together_source {long short : LegBook}
    (h : maxSkew long short ≤ config.maxSideSkewSeconds) :
    Together config (sourceTimes long short) := by
  intro s hs t ht
  calc secondsBetween s t ≤ sourceSkew long short := secondsBetween_le_span hs ht
    _ ≤ maxSkew long short := le_max_left _ _
    _ ≤ config.maxSideSkewSeconds := h

theorem together_receipt {long short : LegBook}
    (h : maxSkew long short ≤ config.maxSideSkewSeconds) :
    Together config (receiptTimes long short) := by
  intro s hs t ht
  calc secondsBetween s t ≤ receiptSkew long short := secondsBetween_le_span hs ht
    _ ≤ maxSkew long short := le_max_right _ _
    _ ≤ config.maxSideSkewSeconds := h

theorem foldl_max_nonneg : ∀ (values : List Rat) {start : Rat}, 0 ≤ start →
    0 ≤ values.foldl max start
  | [], _, h => h
  | _ :: values, _, h => foldl_max_nonneg values (h.trans (le_max_left _ _))

theorem maxSkew_nonneg (long short : LegBook) : 0 ≤ maxSkew long short :=
  (spanSeconds_nonneg _ _).trans (le_max_left _ _)

theorem debitEvidence_spec (long short : LegBook) :
    debitEvidence request provider long short = .ok (none, [.invalidVertical]) ∨
      ∃ age skew, debitEvidence request provider long short =
          .ok (some (legEvidence request provider long short age skew), []) ∧
        0 < long.ask.price.val - short.bid.price.val ∧
          long.ask.price.val - short.bid.price.val < 10 := by
  have hage := foldl_max_nonneg (ages request long short) (le_refl 0)
  have hskew := maxSkew_nonneg long short
  unfold debitEvidence
  dsimp only
  split
  · exact .inl rfl
  · rename_i hdebit
    simp only [not_or, not_not] at hdebit
    obtain ⟨⟨hnonneg, hlt⟩, hne⟩ := hdebit
    refine .inr ⟨⟨_, hage⟩, ⟨_, hskew⟩, ?_, lt_of_le_of_ne hnonneg (Ne.symm hne), hlt⟩
    rw [nonNegativeF64, nonNegativeF64, dif_pos hage, dif_pos hskew]
    rfl

/-- What `exact_leg_evidence` answers: a reason, or evidence that is supported and no reason. -/
inductive LegAnswer (request : EvaluationRequestV1) (snapshot : AnalyticalOptionSnapshotV1 D)
    (processingAt : DateTime) (provider : Provider) (config : ReadinessConfig) :
    Except Panic (Option ExactLegEvidenceV1 × List StrategyBlockReason) → Prop
  | refused {reasons : List StrategyBlockReason} (ne : reasons ≠ []) :
      LegAnswer request snapshot processingAt provider config (.ok (none, reasons))
  | found {long short : LegBook} {age skew : NonNegativeF64}
      (supported : ProviderReady request processingAt config snapshot provider →
        Supported request snapshot processingAt config
          (legEvidence request provider long short age skew) long short) :
      LegAnswer request snapshot processingAt provider config
        (.ok (some (legEvidence request provider long short age skew), []))

theorem quoteEvidence_spec {long short : QuoteV1}
    (hlong : findContract snapshot provider request.longContractId = some long)
    (hshort : findContract snapshot provider request.shortContractId = some short) :
    LegAnswer request snapshot processingAt provider config
      (quoteEvidence request processingAt provider config long short []) := by
  unfold quoteEvidence
  dsimp only
  split
  · rename_i longContract shortContract hlongOption hshortOption
    split
    · rename_i longBid longAsk shortBid shortAsk hlongBid hlongAsk hshortBid hshortAsk
      split
      · rename_i hne
        exact .refused hne
      · rename_i hnil
        rw [not_not, append_eq_nil_iff, append_eq_nil_iff, nil_append,
          notLiveReasons_eq_nil, validateContracts_eq_nil, sideReasons_eq_nil] at hnil
        obtain ⟨⟨hlive, hexpiry, hcontract, hwidth⟩, hsides, hfresh, hskew⟩ := hnil
        obtain ⟨hlongRight, hshortRight, hlongUnder, hshortUnder, hlongClass, hshortClass⟩ :=
          hcontract
        simp only [sourceTimes, receiptTimes, cons_append, nil_append,
          forall_mem_cons, not_mem_nil, false_imp_iff, implies_true, and_true] at hfresh
        obtain ⟨h1, h2, h3, h4, h5, h6, h7, h8⟩ := hfresh
        obtain hbad | ⟨age, skew, hok, hdebit⟩ :=
          debitEvidence_spec ⟨longContract, longBid, longAsk⟩
          ⟨shortContract, shortBid, shortAsk⟩
        · rw [hbad]
          exact .refused (cons_ne_nil _ _)
        · rw [hok]
          exact .found fun hprovider =>
            { evidence := rfl
              provider := hprovider
              long_ready := ⟨⟨long, hlong, hlive.1, hlongOption, hlongBid, hlongAsk⟩, hexpiry.1,
                hlongRight, hlongUnder, hlongClass, hsides.1, ⟨h1, h2⟩, h5, h6⟩
              short_ready := ⟨⟨short, hshort, hlive.2, hshortOption, hshortBid, hshortAsk⟩,
                hexpiry.2,
                hshortRight, hshortUnder, hshortClass, hsides.2, ⟨h3, h4⟩, h7, h8⟩
              sources := together_source hskew
              receipts := together_receipt hskew
              width := hwidth
              debit := hdebit }
    · exact .refused (append_ne_nil_of_right_ne_nil _ (cons_ne_nil _ _))
  · exact .refused (append_ne_nil_of_right_ne_nil _ (cons_ne_nil _ _))

theorem exactLegEvidence_spec : LegAnswer request snapshot processingAt provider config
    (exactLegEvidence request snapshot processingAt provider config []) := by
  unfold exactLegEvidence
  split
  · rename_i long short hlong hshort
    exact quoteEvidence_spec hlong hshort
  · exact .refused (cons_ne_nil _ _)

/-- **Readiness.** The assessment is always made, and its evidence is supported. -/
theorem assessReadiness_spec : ∃ assessment,
    assessReadiness request snapshot processingAt config = .ok assessment ∧ assessment.Settled ∧
      ∀ legs, assessment.exactLegs = some legs →
        ∃ long short, Supported request snapshot processingAt config legs long short := by
  unfold assessReadiness
  obtain ⟨reason, hnone⟩ | ⟨provider, hsome, hready⟩ :=
    selectProvider_spec
  · rw [hnone]
    refine ⟨_, rfl, .inl ?_, fun legs hlegs => ?_⟩
    · exact mt ReadinessAssessment.blockReasons_normalize.mp (cons_ne_nil _ _)
    · exact absurd (ReadinessAssessment.exactLegs_normalize.mp hlegs).1 (cons_ne_nil _ _)
  · rw [hsome]
    dsimp only
    have hspec : LegAnswer request snapshot processingAt provider config _ := exactLegEvidence_spec
    generalize exactLegEvidence request snapshot processingAt provider config [] = answer at hspec
    cases hspec with
    | refused hne =>
      refine ⟨_, rfl, .inl (mt ReadinessAssessment.blockReasons_normalize.mp hne), ?_⟩
      intro legs hlegs
      exact absurd (ReadinessAssessment.exactLegs_normalize.mp hlegs).1 hne
    | found hsupported =>
      refine ⟨_, rfl, .inr ⟨_, ReadinessAssessment.exactLegs_normalize.mpr ⟨rfl, rfl⟩⟩, ?_⟩
      intro legs hlegs
      obtain ⟨-, hlegs⟩ := ReadinessAssessment.exactLegs_normalize.mp hlegs
      cases hlegs
      exact ⟨_, _, hsupported hready⟩

end

end SpxSpark.Core
