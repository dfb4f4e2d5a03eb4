import SpxSpark.Storage.OptionMerge

/-!
# QuoteUse — how fresh a quote is, and what ageing makes of its quality

A quote is judged by the clock of its feed. Where the feed says itself what kind it is, the stored
quality is only looked at to see whether the quote was stale or unusable before; where it does not,
the stored quality is the feed's kind.
-/

namespace SpxSpark.Storage

open Lib

/-! ## The decision -/

inductive QuoteFreshness
  | fresh | stale | unknown
  deriving DecidableEq

/-- Source timestamps slightly ahead of the local clock are tolerated. -/
def futureTimestampToleranceSeconds : ℚ := 5

inductive UseReason
  | quoteHasNoPrice
  | transportStale
  | feedQuality (quality : MarketDataQuality)
  | transportTimestampMissing
  | transportTimestampInFuture
  | transportStaleAfter (seconds : ℚ)
  | fresh (mode : MarketDataQuality)

structure QuoteUseDecision where
  feedMode : MarketDataQuality
  freshness : QuoteFreshness
  researchUsable : Bool
  alertAllowed : Bool
  pricingAllowed : Bool
  reason : UseReason

/-- The settings of `quote_use_decision`. -/
structure UseSettings where
  staleAfterSeconds : ℚ := 15
  delayedStaleAfterSeconds : ℚ := 60
  allowFrozen : Bool := false
  preferQuoteTime : Bool := false

def MarketDataQuality.isKnownFeed : MarketDataQuality → Bool
  | .live | .frozen | .delayed | .delayedFrozen => true
  | _ => false

variable (reader : RawReader)

/-- What kind the feed is: it says so itself, or the quality does. -/
def feedMode (quote : Quote) : MarketDataQuality :=
  (qualityFromMarketDataType reader quote.marketDataType).getD quote.quality

def isResearchFeed (mode : MarketDataQuality) : Bool := mode.isKnownFeed || mode = .synthetic

/-- The clock that a quote is judged by. -/
def transportTime (preferQuoteTime : Bool) (quote : Quote) : Option Instant :=
  match if preferQuoteTime then none else quote.lastUpdateAt with
  | some time => some time
  | none =>
    let mode := feedMode reader quote
    if mode = .live || mode = .synthetic then quote.quoteTime <|> quote.tradeTime else none

/-- How old a quote of a kind may be. -/
def UseSettings.threshold (settings : UseSettings) (mode : MarketDataQuality) : ℚ :=
  if mode = .delayed || mode = .delayedFrozen then settings.delayedStaleAfterSeconds
  else settings.staleAfterSeconds

/-- `quote_use_decision`. -/
def quoteUseDecision (settings : UseSettings) (asOf : Instant) (quote : Quote) :
    QuoteUseDecision :=
  let mode := feedMode reader quote
  let researchUsable := quote.hasPrice && isResearchFeed mode
  let refused (freshness : QuoteFreshness) (researchUsable : Bool) (reason : UseReason) :
      QuoteUseDecision :=
    { feedMode := mode, freshness, researchUsable, alertAllowed := false, pricingAllowed := false
      reason }
  if !quote.hasPrice then refused .unknown false .quoteHasNoPrice
  else if quote.quality = .stale && !mode.isKnownFeed then refused .stale false .transportStale
  else if (quote.quality = .missing || quote.quality = .error) || !isResearchFeed mode then
    refused .unknown false (.feedQuality quote.quality)
  else
    match transportTime reader settings.preferQuoteTime quote with
    | none => refused .unknown researchUsable .transportTimestampMissing
    | some time =>
      let ageSeconds := secondsBetween asOf time
      if ageSeconds < -futureTimestampToleranceSeconds then
        refused .unknown false .transportTimestampInFuture
      else
        let threshold := settings.threshold mode
        let stale : Bool := quote.quality = .stale || threshold < ageSeconds
        let actionable := !stale && (mode = .live || (settings.allowFrozen && mode = .frozen))
        { feedMode := mode
          freshness := if stale then .stale else .fresh
          researchUsable := !stale && researchUsable
          alertAllowed := actionable
          pricingAllowed := actionable
          reason := if stale then .transportStaleAfter threshold else .fresh mode }

/-! ## Ageing -/

/-- The settings of `degrade_stale_quote`. -/
structure FreshnessRules where
  staleAfterSeconds : ℚ
  delayedStaleAfterSeconds : ℚ := 60
  slowStaleAfterSeconds : Option ℚ := none
  slowLabels : List Text := []
  rotationStaleAfterSeconds : Option ℚ := none

def resolveStaleAfterSeconds (instrumentId : Text) (defaultSeconds slowSeconds : ℚ)
    (slowLabels : List Text) : ℚ :=
  if slowLabels.contains instrumentId then slowSeconds else defaultSeconds

/-- IBKR streams option rows in a rotation, not at every tick. -/
def isIbkrRotatedOption (quote : Quote) : Bool :=
  quote.provider = .ibkr && quote.instrument.isOption

/-- The settings by which `degrade_stale_quote` judges a quote. -/
def FreshnessRules.useSettings (rules : FreshnessRules) (quote : Quote) : UseSettings :=
  let rotation := if isIbkrRotatedOption quote then rules.rotationStaleAfterSeconds else none
  let id := quote.instrument.canonicalId
  let windows : ℚ × ℚ :=
    match rotation, rules.slowStaleAfterSeconds with
    -- a caller that widens the window on purpose wins over the rotation
    | some rotation, _ =>
      (max rotation rules.staleAfterSeconds, max rotation rules.staleAfterSeconds)
    | none, some slow =>
      (resolveStaleAfterSeconds id rules.staleAfterSeconds slow rules.slowLabels,
        rules.delayedStaleAfterSeconds)
    | none, none => (rules.staleAfterSeconds, rules.delayedStaleAfterSeconds)
  { staleAfterSeconds := windows.1
    delayedStaleAfterSeconds := if rules.slowLabels.contains id then windows.1 else windows.2
    preferQuoteTime := isIbkrRotatedOption quote }

/-- The quality that `degrade_stale_quote` leaves a quote with. -/
def degradedQuality (rules : FreshnessRules) (asOf : Instant) (quote : Quote) :
    MarketDataQuality :=
  let decision := quoteUseDecision reader (rules.useSettings quote) asOf quote
  if decision.freshness ≠ .stale then
    if decision.freshness = .unknown && (quote.quality = .live || quote.quality = .frozen) then
      .unknown
    else quote.quality
  else .stale

/-! ## What ageing does -/

/-- The quality of a quote whose freshness is unknown. -/
def MarketDataQuality.demoted (quality : MarketDataQuality) : MarketDataQuality :=
  if quality = .live || quality = .frozen then .unknown else quality

/-- The clock of a quote is further ahead than is tolerated. -/
def IsAhead (now : Instant) (quote : Quote) : Prop :=
  ∃ time, transportTime reader (isIbkrRotatedOption quote) quote = some time ∧
    secondsBetween now time < -futureTimestampToleranceSeconds

/-- The quote has a price and a kind of feed that is judged by its clock. -/
def IsTimed (quote : Quote) : Prop :=
  quote.hasPrice = true ∧ quote.quality ≠ .missing ∧ quote.quality ≠ .error ∧
    isResearchFeed (feedMode reader quote) = true

/-- The clock of a quote is late, for its kind of feed. -/
def IsLate (rules : FreshnessRules) (now : Instant) (quote : Quote) : Prop :=
  ∃ time, transportTime reader (isIbkrRotatedOption quote) quote = some time ∧
    -futureTimestampToleranceSeconds ≤ secondsBetween now time ∧
    (rules.useSettings quote).threshold (feedMode reader quote) < secondsBetween now time

/-- Nothing says how fresh the quote is. -/
def IsUnknown (now : Instant) (quote : Quote) : Prop :=
  quote.hasPrice = false ∨ transportTime reader (isIbkrRotatedOption quote) quote = none ∨
    IsAhead reader now quote

variable {reader} {rules : FreshnessRules} {now later : Instant} {quote : Quote}

variable {mode : MarketDataQuality}

theorem isKnownFeed_of_stated
    (h : qualityFromMarketDataType reader quote.marketDataType = some mode) :
    mode.isKnownFeed = true := by
  obtain ⟨value, -, hmode⟩ := Option.bind_eq_some_iff.mp h
  split at hmode
  all_goals first
    | (obtain rfl := Option.some.inj hmode; rfl)
    | cases hmode
    | skip
  dsimp only at hmode
  repeat' split at hmode
  all_goals first
    | (obtain rfl := Option.some.inj hmode; rfl)
    | cases hmode

/-- `degrade_stale_quote` only reads the freshness of the decision. -/
theorem degradedQuality_of_freshness {freshness : QuoteFreshness}
    (h : (quoteUseDecision reader (rules.useSettings quote) now quote).freshness = freshness) :
    degradedQuality reader rules now quote =
      if freshness = .stale then .stale
      else if freshness = .unknown then quote.quality.demoted else quote.quality := by
  unfold degradedQuality MarketDataQuality.demoted
  dsimp only
  rw [h]
  cases freshness with
  | fresh => rfl
  | stale => rfl
  | unknown =>
    by_cases hlive : (quote.quality = .live || quote.quality = .frozen) = true
    · simp [hlive]
    · simp [hlive]

theorem isKnownFeed_of_research (h : mode.isKnownFeed = true) : isResearchFeed mode = true := by
  rw [isResearchFeed, h]
  rfl

theorem degradedQuality_untimed (h : ¬IsTimed reader quote) :
    degradedQuality reader rules now quote = quote.quality.demoted := by
  by_cases hprice : quote.hasPrice = true
  · by_cases hstale : quote.quality = .stale ∧ (feedMode reader quote).isKnownFeed = false
    · have hfreshness : (quoteUseDecision reader (rules.useSettings quote) now quote).freshness =
          .stale := by
        simp [quoteUseDecision, hprice, hstale.1, hstale.2]
      rw [degradedQuality_of_freshness hfreshness, hstale.1]
      rfl
    · have hrefused : quote.quality = .missing ∨ quote.quality = .error ∨
          isResearchFeed (feedMode reader quote) = false := by
        by_contra hnot
        simp only [not_or, Bool.not_eq_false] at hnot
        exact h ⟨hprice, hnot.1, hnot.2.1, hnot.2.2⟩
      have hfreshness : (quoteUseDecision reader (rules.useSettings quote) now quote).freshness =
          .unknown := by
        unfold quoteUseDecision
        dsimp only
        rw [if_neg (by rw [hprice]; decide), if_neg (by simpa using hstale),
          if_pos (by simpa [or_assoc] using hrefused)]
      rw [degradedQuality_of_freshness hfreshness]
      rfl
  · have hfreshness : (quoteUseDecision reader (rules.useSettings quote) now quote).freshness =
        .unknown := by
      simp [quoteUseDecision, hprice]
    rw [degradedQuality_of_freshness hfreshness]
    rfl

theorem feedMode_of_stated (h : qualityFromMarketDataType reader quote.marketDataType = some mode) :
    feedMode reader quote = mode := by
  rw [feedMode, h]
  rfl

theorem feedMode_of_unstated
    (h : qualityFromMarketDataType reader quote.marketDataType = none) :
    feedMode reader quote = quote.quality := by
  rw [feedMode, h]
  rfl

theorem IsTimed.known (h : IsTimed reader quote) (hstale : quote.quality = .stale) :
    (feedMode reader quote).isKnownFeed = true := by
  cases hstated : qualityFromMarketDataType reader quote.marketDataType with
  | some mode =>
    rw [feedMode_of_stated hstated]
    exact isKnownFeed_of_stated hstated
  | none =>
    have hresearch := h.2.2.2
    rw [feedMode_of_unstated hstated, hstale] at hresearch
    exact absurd hresearch (by decide)

section Timed

variable (htimed : IsTimed reader quote)
include htimed

theorem IsTimed.passes : quote.hasPrice = true ∧
      ¬(quote.quality = .stale && !(feedMode reader quote).isKnownFeed) = true ∧
      ¬((quote.quality = .missing || quote.quality = .error) ||
        !isResearchFeed (feedMode reader quote)) = true := by
  refine ⟨htimed.1, ?_, ?_⟩
  · rw [Bool.and_eq_true, decide_eq_true_eq]
    rintro ⟨hstale, hunknown⟩
    rw [htimed.known hstale] at hunknown
    cases hunknown
  · simp [htimed.2.1, htimed.2.2.1, htimed.2.2.2]

theorem freshness_of_clock (rules : FreshnessRules) (now : Instant) :
    (quoteUseDecision reader (rules.useSettings quote) now quote).freshness =
      (transportTime reader (isIbkrRotatedOption quote) quote).elim .unknown fun time =>
        if secondsBetween now time < -futureTimestampToleranceSeconds then .unknown
        else if quote.quality = .stale ∨
            (rules.useSettings quote).threshold (feedMode reader quote) <
              secondsBetween now time then .stale
        else .fresh := by
  obtain ⟨hprice, hknown, husable⟩ := htimed.passes
  have hprefer : (rules.useSettings quote).preferQuoteTime = isIbkrRotatedOption quote := rfl
  unfold quoteUseDecision
  dsimp only
  rw [if_neg (by rw [hprice]; decide), if_neg hknown, if_neg husable, hprefer]
  cases transportTime reader (isIbkrRotatedOption quote) quote with
  | none => rfl
  | some time =>
    show QuoteUseDecision.freshness (if _ then _ else _) = if _ then _ else _
    split
    · rfl
    · simp

theorem degradedQuality_of_clockless
    (hclock : transportTime reader (isIbkrRotatedOption quote) quote = none) :
    degradedQuality reader rules now quote = quote.quality.demoted := by
  have hfreshness := freshness_of_clock htimed rules now
  rw [hclock] at hfreshness
  exact degradedQuality_of_freshness hfreshness

theorem degradedQuality_of_ahead (hahead : IsAhead reader now quote) :
    degradedQuality reader rules now quote = quote.quality.demoted := by
  obtain ⟨time, hclock, hlt⟩ := hahead
  have hfreshness := freshness_of_clock htimed rules now
  rw [hclock, Option.elim_some, if_pos hlt] at hfreshness
  exact degradedQuality_of_freshness hfreshness

theorem degradedQuality_of_late (hlate : IsLate reader rules now quote) :
    degradedQuality reader rules now quote = .stale := by
  obtain ⟨time, hclock, hle, hlt⟩ := hlate
  have hfreshness := freshness_of_clock htimed rules now
  rw [hclock, Option.elim_some, if_neg (not_lt.mpr hle), if_pos (.inr hlt)] at hfreshness
  exact degradedQuality_of_freshness hfreshness

theorem degradedQuality_of_fresh {time : Instant}
    (hclock : transportTime reader (isIbkrRotatedOption quote) quote = some time)
    (hahead : ¬IsAhead reader now quote) (hlate : ¬IsLate reader rules now quote) :
    degradedQuality reader rules now quote = quote.quality := by
  have hfreshness := freshness_of_clock htimed rules now
  have hle : ¬secondsBetween now time < -futureTimestampToleranceSeconds :=
    fun hlt => hahead ⟨time, hclock, hlt⟩
  have hnot : ¬(rules.useSettings quote).threshold (feedMode reader quote) <
      secondsBetween now time := fun hlt => hlate ⟨time, hclock, not_lt.mp hle, hlt⟩
  rw [hclock, Option.elim_some, if_neg hle] at hfreshness
  by_cases hstale : quote.quality = .stale
  · rw [if_pos (.inl hstale)] at hfreshness
    rw [degradedQuality_of_freshness hfreshness, hstale]
    rfl
  · rw [if_neg (not_or.mpr ⟨hstale, hnot⟩)] at hfreshness
    exact degradedQuality_of_freshness hfreshness

end Timed

/-! ## Ageing twice -/

theorem degradedQuality_of_unknown (h : IsUnknown reader now quote) :
    degradedQuality reader rules now quote = quote.quality.demoted := by
  by_cases htimed : IsTimed reader quote
  · rcases h with hprice | hclock | hahead
    · rw [htimed.1] at hprice
      cases hprice
    · exact degradedQuality_of_clockless htimed hclock
    · exact degradedQuality_of_ahead htimed hahead
  · exact degradedQuality_untimed htimed

theorem isTimed_of_live (hprice : quote.hasPrice = true)
    (hlive : quote.quality = .live ∨ quote.quality = .frozen) : IsTimed reader quote := by
  have hknown : (feedMode reader quote).isKnownFeed = true := by
    cases hstated : qualityFromMarketDataType reader quote.marketDataType with
    | some mode =>
      rw [feedMode_of_stated hstated]
      exact isKnownFeed_of_stated hstated
    | none =>
      rw [feedMode_of_unstated hstated]
      rcases hlive with hlive | hlive <;> rw [hlive] <;> rfl
  refine ⟨hprice, ?_, ?_, isKnownFeed_of_research hknown⟩
  · rcases hlive with hlive | hlive <;> rw [hlive] <;> decide
  · rcases hlive with hlive | hlive <;> rw [hlive] <;> decide

/-- Ageing leaves a quality as it is, or takes it away from a quote of unknown freshness, or calls
a quote stale that is late. -/
theorem degradedQuality_cases (reader : RawReader) (rules : FreshnessRules) (now : Instant)
    (quote : Quote) : degradedQuality reader rules now quote = quote.quality ∨
      (IsUnknown reader now quote ∧ (quote.quality = .live ∨ quote.quality = .frozen) ∧
        degradedQuality reader rules now quote = .unknown) ∨
      (IsTimed reader quote ∧ IsLate reader rules now quote ∧
        degradedQuality reader rules now quote = .stale) := by
  have hdemoted : degradedQuality reader rules now quote = quote.quality.demoted →
      (quote.quality = .live ∨ quote.quality = .frozen → IsUnknown reader now quote) →
      degradedQuality reader rules now quote = quote.quality ∨
        (IsUnknown reader now quote ∧ (quote.quality = .live ∨ quote.quality = .frozen) ∧
          degradedQuality reader rules now quote = .unknown) := by
    intro heq hunknown
    by_cases hlive : quote.quality = .live ∨ quote.quality = .frozen
    · refine .inr ⟨hunknown hlive, hlive, ?_⟩
      rw [heq, MarketDataQuality.demoted, if_pos (by simpa using hlive)]
    · left
      rw [heq, MarketDataQuality.demoted, if_neg (by simpa using hlive)]
  by_cases htimed : IsTimed reader quote
  · cases hclock : transportTime reader (isIbkrRotatedOption quote) quote with
    | none =>
      exact (hdemoted (degradedQuality_of_clockless htimed hclock)
        (fun _ => .inr (.inl hclock))).imp_right .inl
    | some time =>
      by_cases hahead : IsAhead reader now quote
      · exact (hdemoted (degradedQuality_of_ahead htimed hahead)
          (fun _ => .inr (.inr hahead))).imp_right .inl
      by_cases hlate : IsLate reader rules now quote
      · exact .inr (.inr ⟨htimed, hlate, degradedQuality_of_late htimed hlate⟩)
      · exact .inl (degradedQuality_of_fresh htimed hclock hahead hlate)
  · refine (hdemoted (degradedQuality_untimed htimed) fun hlive => .inl ?_).imp_right .inl
    by_contra hprice
    exact htimed (isTimed_of_live (by simpa using hprice) hlive)

theorem not_isTimed_of_unstated
    (hstated : qualityFromMarketDataType reader quote.marketDataType = none)
    (h : isResearchFeed quote.quality = false) : ¬IsTimed reader quote := by
  intro htimed
  have hresearch := htimed.2.2.2
  rw [feedMode_of_unstated hstated, h] at hresearch
  cases hresearch

/-- The quote was taken for one of unknown freshness since its clock was too far ahead, and time
has caught up with the clock. -/
def IsOvertaken (reader : RawReader) (now later : Instant) (quote : Quote) : Prop :=
  quote.hasPrice = true ∧ (quote.quality = .live ∨ quote.quality = .frozen) ∧
    IsAhead reader now quote ∧ ¬IsAhead reader later quote

theorem IsAhead.earlier (hle : now ≤ later) (h : IsAhead reader later quote) :
    IsAhead reader now quote := by
  obtain ⟨time, hclock, hlt⟩ := h
  exact ⟨time, hclock, lt_of_le_of_lt (secondsBetween_le_iff.mpr hle) hlt⟩

theorem IsLate.stays (hle : now ≤ later) (h : IsLate reader rules now quote) :
    IsLate reader rules later quote := by
  obtain ⟨time, hclock, hahead, hlt⟩ := h
  have hage : secondsBetween now time ≤ secondsBetween later time := secondsBetween_le_iff.mpr hle
  exact ⟨time, hclock, hahead.trans hage, hlt.trans_le hage⟩

section Again

variable {quality : MarketDataQuality}

theorem transportTime_of_stated (prefers : Bool)
    (h : qualityFromMarketDataType reader quote.marketDataType = some mode) :
    transportTime reader prefers { quote with quality := quality } =
      transportTime reader prefers quote := by
  have hmode : feedMode reader { quote with quality := quality } = feedMode reader quote := by
    rw [feedMode_of_stated h]
    exact feedMode_of_stated h
  unfold transportTime
  dsimp only
  rw [hmode]

/-- **Once unknown, always unknown**, as long as the reason lasts. -/
theorem degradedQuality_unknown (h : IsUnknown reader later quote) :
    degradedQuality reader rules later { quote with quality := .unknown } = .unknown := by
  cases hstated : qualityFromMarketDataType reader quote.marketDataType with
  | none =>
    exact degradedQuality_untimed (not_isTimed_of_unstated hstated rfl)
  | some mode =>
    refine degradedQuality_of_unknown ?_
    rcases h with hprice | hclock | ⟨time, hclock, hlt⟩
    · exact .inl hprice
    · exact .inr (.inl ((transportTime_of_stated _ hstated).trans hclock))
    · exact .inr (.inr ⟨time, (transportTime_of_stated _ hstated).trans hclock, hlt⟩)

/-- **Once stale, always stale.** -/
theorem degradedQuality_stale (htimed : IsTimed reader quote)
    (hlate : IsLate reader rules later quote) :
    degradedQuality reader rules later { quote with quality := .stale } = .stale := by
  cases hstated : qualityFromMarketDataType reader quote.marketDataType with
  | none =>
    exact degradedQuality_untimed (not_isTimed_of_unstated hstated rfl)
  | some mode =>
    have hmode : feedMode reader { quote with quality := .stale } = feedMode reader quote := by
      rw [feedMode_of_stated hstated]
      exact feedMode_of_stated hstated
    obtain ⟨time, hclock, hahead, hlt⟩ := hlate
    refine degradedQuality_of_late ⟨htimed.1, nofun, nofun, ?_⟩
      ⟨time, (transportTime_of_stated _ hstated).trans hclock, hahead, ?_⟩
    · rw [hmode]
      exact htimed.2.2.2
    · rw [hmode]
      exact hlt

/-- **Ageing again is ageing once**: what was made of the quality in between does not matter, unless
time has caught up with a clock that was too far ahead. -/
theorem degradedQuality_again (hle : now ≤ later) (hskew : ¬IsOvertaken reader now later quote) :
    degradedQuality reader rules later
        { quote with quality := degradedQuality reader rules now quote } =
      degradedQuality reader rules later quote := by
  rcases degradedQuality_cases reader rules now quote with
    hkept | ⟨hunknown, hlive, htaken⟩ | ⟨htimed, hlate, hstale⟩
  · rw [hkept]
  · have hlasts : IsUnknown reader later quote := by
      rcases hunknown with hprice | hclock | hahead
      · exact .inl hprice
      · exact .inr (.inl hclock)
      · by_cases hprice : quote.hasPrice = true
        · exact .inr (.inr (by_contra fun hnot => hskew ⟨hprice, hlive, hahead, hnot⟩))
        · exact .inl (by simpa using hprice)
    rw [htaken, degradedQuality_unknown hlasts, degradedQuality_of_unknown hlasts,
      MarketDataQuality.demoted, if_pos (by simpa using hlive)]
  · have hlate' := hlate.stays hle
    rw [hstale, degradedQuality_stale htimed hlate', degradedQuality_of_late htimed hlate']

end Again

end SpxSpark.Storage
