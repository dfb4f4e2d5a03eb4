import Mathlib.Data.Prod.Lex
import SpxSpark.Lib.Arrays
import SpxSpark.MarketCalendar.Sessions
import SpxSpark.Providers.Failover
import SpxSpark.Storage.LatestState
import SpxSpark.Storage.QuoteUse

/-!
# BestQuotes — one quote for each instrument

Of the quotes of one instrument the best has the highest quality, then the provider of the highest
priority, then the latest time.
-/

namespace SpxSpark.Storage

open Lib MarketCalendar Arrays List

/-! ## Which providers may price -/

/-- What the failover control says: one of its modes, or that it cannot be trusted. -/
inductive FailoverControl
  | mode (mode : Providers.FailoverMode)
  | blocked

/-- What a selection depends on besides the quotes and the time. -/
structure SelectionPolicy where
  zone : EasternClock
  /-- `(instrument.trading_class or "").upper() == "SPXW"`. -/
  isSpxw : InstrumentId → Bool
  configured : List Provider
  failoverMode : Option FailoverControl := none

def controlledSpxwProvider : Option FailoverControl → Option Provider
  | some (.mode .schwabPrimary) => some .schwab
  | some (.mode .ibkrFallback) => some .ibkr
  | _ => none

def preferredSpxwProvider (zone : EasternClock) (asOf : Instant) : Option Provider :=
  if isRthOpen (zone.asEt asOf) then some .schwab
  else if isSpxGthOpen (zone.asEt asOf) then some .ibkr
  else none

def providerFirst (provider : Provider) (configured : List Provider) : List Provider :=
  provider :: configured.filter fun item => item ≠ provider

variable (policy : SelectionPolicy) (asOf : Instant)

/-- `pricing_provider_priority`. -/
def pricingProviderPriority (instrument : InstrumentId) : List Provider :=
  if !policy.isSpxw instrument then policy.configured
  else
    match controlledSpxwProvider policy.failoverMode with
    | some controlled => providerFirst controlled policy.configured
    | none =>
      match preferredSpxwProvider policy.zone asOf with
      | some preferred => providerFirst preferred policy.configured
      | none => policy.configured

/-- The modes in which no SPXW option may be priced. -/
def FailoverControl.closesSpxw : FailoverControl → Bool
  | .mode .recoveryPending | .mode .bothUnavailable | .blocked => true
  | _ => false

/-- `pricing_candidates`. -/
def pricingCandidates (quotes : List Quote) : List Quote :=
  match quotes with
  | [] => []
  | first :: _ =>
    let isSpxw := policy.isSpxw first.instrument
    if isSpxw && policy.failoverMode.any FailoverControl.closesSpxw then []
    else
      let candidates :=
        match controlledSpxwProvider policy.failoverMode with
        | some controlled =>
          if isSpxw then quotes.filter fun quote => quote.provider = controlled else quotes
        | none => quotes
      if !isSpxw || preferredSpxwProvider policy.zone asOf ≠ some .ibkr then candidates
      else candidates.filter fun quote => quote.provider = .ibkr

/-! ## The best quote -/

/-- `QUALITY_RANK`. -/
def qualityRank : MarketDataQuality → ℕ
  | .live => 100
  | .frozen => 85
  | .delayed => 75
  | .delayedFrozen => 65
  | .synthetic => 50
  | .unknown => 30
  | .stale => 20
  | .missing => 0
  | .error => 0

/-- `normalize_provider_priority`: the last place of a provider counts. -/
def normalizeProviderPriority (providers : List Provider) : Dict Provider ℕ :=
  providers.zipIdx.foldl (fun result item => result.insert item.1 item.2) ∅

def providerRank (providers : List Provider) (provider : Provider) : ℕ :=
  ((normalizeProviderPriority providers).lookup provider).getD
    (normalizeProviderPriority providers).size

def Quote.isUsable (quote : Quote) : Bool :=
  quote.hasPrice && !(quote.quality = .missing || quote.quality = .error)

/-- `quote_age_ms`. -/
def quoteAgeMs (quote : Quote) : ℚ := secondsBetween asOf (pricingTime quote) * 1000

/-- Keys are compared member by member. -/
abbrev SortKey := ℚ ×ₗ ℚ ×ₗ ℚ ×ₗ ℚ

/-- The key of `choose_best_quote`. -/
def sortKey (priority : List Provider) (quote : Quote) : SortKey :=
  toLex ((qualityRank quote.quality : ℚ), toLex (-(providerRank priority quote.provider : ℚ),
    toLex (-quoteAgeMs asOf quote, if quote.mid.isSome then 1 else 0)))

/-- `choose_best_quote`: the first of those with the highest key. -/
def chooseBestQuote (priority : List Provider) (quotes : List Quote) : Option Quote :=
  (quotes.filter Quote.isUsable).argmax (sortKey asOf priority)

/-- The quote that is selected among those of one instrument. -/
def bestQuote (quotes : List Quote) : Option Quote :=
  match pricingCandidates policy asOf quotes with
  | [] => none
  | first :: rest =>
    chooseBestQuote asOf (pricingProviderPriority policy asOf first.instrument) (first :: rest)

/-- The instruments of some quotes, in order. -/
def instrumentIds (quotes : List Quote) : List Text :=
  ((quotes.map fun quote => quote.instrument.canonicalId).dedup).insertionSort (· ≤ ·)

/-- `select_best_quotes`. -/
def selectBestQuotes (quotes : List Quote) : List Quote :=
  (instrumentIds quotes).filterMap fun id =>
    bestQuote policy asOf (quotes.filter fun quote => quote.instrument.canonicalId = id)

/-! ## Selecting from stored rows -/

variable {policy} {asOf} {quotes : List Quote} {priority : List Provider} {quote : Quote}

theorem sortKey_stored : sortKey asOf priority quote.stored = sortKey asOf priority quote := rfl

theorem chooseBestQuote_stored : chooseBestQuote asOf priority (quotes.map Quote.stored) =
      (chooseBestQuote asOf priority quotes).map Quote.stored := by
  have husable : (Quote.isUsable ∘ Quote.stored : Quote → Bool) = Quote.isUsable := rfl
  rw [chooseBestQuote, chooseBestQuote, filter_map, husable]
  exact argmax_map (fun quote => sortKey_stored) _

def mayPrice (policy : SelectionPolicy) (asOf : Instant) (isSpxw : Bool) (provider : Provider) :
    Bool :=
  !isSpxw || (!policy.failoverMode.any FailoverControl.closesSpxw &&
    (controlledSpxwProvider policy.failoverMode).all (fun controlled => provider = controlled) &&
    (decide (preferredSpxwProvider policy.zone asOf ≠ some .ibkr) || provider = .ibkr))

theorem pricingCandidates_cons {first : Quote} {rest : List Quote} :
    pricingCandidates policy asOf (first :: rest) = (first :: rest).filter fun quote =>
      mayPrice policy asOf (policy.isSpxw first.instrument) quote.provider := by
  unfold pricingCandidates mayPrice
  dsimp only
  cases policy.isSpxw first.instrument with
  | false =>
    rw [if_neg (by simp), if_pos (by rfl)]
    cases controlledSpxwProvider policy.failoverMode <;> simp
  | true =>
    cases hcloses : policy.failoverMode.any FailoverControl.closesSpxw with
    | true => simp
    | false =>
      rw [if_neg (by simp)]
      by_cases hgth : preferredSpxwProvider policy.zone asOf = some .ibkr
      · cases controlledSpxwProvider policy.failoverMode with
        | none => simp [hgth]
        | some controlled => simp [hgth, filter_filter, Bool.and_comm]
      · cases controlledSpxwProvider policy.failoverMode with
        | none => simp [hgth]
        | some controlled => simp [hgth]

theorem pricingCandidates_stored : pricingCandidates policy asOf (quotes.map Quote.stored) =
      (pricingCandidates policy asOf quotes).map Quote.stored := by
  cases quotes with
  | nil => rfl
  | cons first rest =>
    rw [map_cons, pricingCandidates_cons, pricingCandidates_cons, ← map_cons,
      filter_map]
    rfl

theorem bestQuote_stored : bestQuote policy asOf (quotes.map Quote.stored) =
      (bestQuote policy asOf quotes).map Quote.stored := by
  unfold bestQuote
  rw [pricingCandidates_stored]
  cases pricingCandidates policy asOf quotes with
  | nil => rfl
  | cons first rest =>
    rw [map_cons]
    dsimp only
    rw [← map_cons]
    exact chooseBestQuote_stored

theorem selectBestQuotes_stored : selectBestQuotes policy asOf (quotes.map Quote.stored) =
      (selectBestQuotes policy asOf quotes).map Quote.stored := by
  have hids : instrumentIds (quotes.map Quote.stored) = instrumentIds quotes := by
    unfold instrumentIds
    rw [map_map]
    rfl
  unfold selectBestQuotes
  rw [hids, map_filterMap]
  apply filterMap_congr
  intro id _
  rw [filter_map]
  exact bestQuote_stored

/-! ## Selecting among some of the instruments -/

theorem bestQuote_mem (h : bestQuote policy asOf quotes = some quote) : quote ∈ quotes := by
  cases quotes with
  | nil => cases h
  | cons first rest =>
    unfold bestQuote at h
    rw [pricingCandidates_cons] at h
    split at h
    · cases h
    · rename_i candidate others hcandidates
      have hmem : quote ∈ candidate :: others :=
        mem_of_mem_filter (argmax_mem h)
      rw [← hcandidates] at hmem
      exact mem_of_mem_filter hmem

theorem instrumentIds_sorted (quotes : List Quote) : (instrumentIds quotes).Pairwise (· < ·) := by
  have hsorted : (instrumentIds quotes).Pairwise (· ≤ ·) := pairwise_insertionSort _ _
  have hnodup : (instrumentIds quotes).Nodup :=
    (perm_insertionSort _ _).nodup_iff.mpr (nodup_dedup _)
  exact hsorted.imp₂ (fun _ _ hle hne => lt_of_le_of_ne hle hne) hnodup

theorem mem_instrumentIds {id : Text} :
    id ∈ instrumentIds quotes ↔ ∃ quote ∈ quotes, quote.instrument.canonicalId = id := by
  unfold instrumentIds
  rw [mem_insertionSort, mem_dedup, mem_map]

theorem instrumentIds_filter (among : Text → Bool) :
    instrumentIds (quotes.filter fun quote => among quote.instrument.canonicalId) =
      (instrumentIds quotes).filter among := by
  apply (instrumentIds_sorted _).eq_of_mem_iff ((instrumentIds_sorted quotes).filter among)
  intro id
  rw [mem_filter, mem_instrumentIds, mem_instrumentIds]
  constructor
  · rintro ⟨quote, hmem, rfl⟩
    obtain ⟨hquote, hamong⟩ := mem_filter.mp hmem
    exact ⟨⟨quote, hquote, rfl⟩, hamong⟩
  · rintro ⟨⟨quote, hquote, rfl⟩, hamong⟩
    exact ⟨quote, mem_filter.mpr ⟨hquote, hamong⟩, rfl⟩

theorem selectBestQuotes_filter (among : Text → Bool) : selectBestQuotes policy asOf
        (quotes.filter fun quote => among quote.instrument.canonicalId) =
      (selectBestQuotes policy asOf quotes).filter
        fun quote => among quote.instrument.canonicalId := by
  unfold selectBestQuotes
  rw [instrumentIds_filter, filter_filterMap, filterMap_filter]
  apply filterMap_congr
  intro id _
  by_cases hamong : among id = true
  · have hsame : (quotes.filter fun quote => among quote.instrument.canonicalId).filter
        (fun quote => quote.instrument.canonicalId = id) =
          quotes.filter fun quote => quote.instrument.canonicalId = id := by
      rw [filter_filter]
      apply filter_congr
      intro quote _
      by_cases hid : quote.instrument.canonicalId = id
      · rw [hid, hamong]
        simp
      · simp [hid]
    rw [if_pos hamong, hsame]
    cases hbest : bestQuote policy asOf
        (quotes.filter fun quote => quote.instrument.canonicalId = id) with
    | none => rfl
    | some best =>
      have hid := of_mem_filter (bestQuote_mem hbest)
      rw [decide_eq_true_eq] at hid
      rw [Option.filter_some, hid, if_pos hamong]
  · rw [if_neg hamong]
    cases hbest : bestQuote policy asOf
        (quotes.filter fun quote => quote.instrument.canonicalId = id) with
    | none => rfl
    | some best =>
      have hid := of_mem_filter (bestQuote_mem hbest)
      rw [decide_eq_true_eq] at hid
      rw [Option.filter_some, hid, if_neg hamong]

/-! ## Selecting in any order -/

theorem normalizeProviderPriority_snoc (providers : List Provider) (last : Provider) :
    normalizeProviderPriority (providers ++ [last]) =
      (normalizeProviderPriority providers).insert last providers.length := by
  unfold normalizeProviderPriority
  rw [zipIdx_append, foldl_append]
  simp

variable {provider : Provider} {providers : List Provider}

theorem place_of_lookup {place : ℕ}
    (h : (normalizeProviderPriority providers).lookup provider = some place) :
    providers[place]? = some provider := by
  induction providers using List.reverseRecOn with
  | nil => cases h
  | append_singleton providers last ih =>
    rw [normalizeProviderPriority_snoc] at h
    by_cases hlast : provider = last
    · subst hlast
      rw [AList.lookup_insert] at h
      obtain rfl := Option.some.inj h
      simp
    · rw [AList.lookup_insert_ne hlast] at h
      have hplace := ih h
      obtain ⟨hlt, -⟩ := List.getElem?_eq_some_iff.mp hplace
      rw [List.getElem?_append_left hlt]
      exact hplace

theorem lookup_of_mem (h : provider ∈ providers) :
    ∃ place, (normalizeProviderPriority providers).lookup provider = some place := by
  induction providers using List.reverseRecOn with
  | nil => cases h
  | append_singleton providers last ih =>
    rw [normalizeProviderPriority_snoc]
    by_cases hlast : provider = last
    · subst hlast
      exact ⟨_, AList.lookup_insert _⟩
    · rw [AList.lookup_insert_ne hlast]
      refine ih ((mem_append.mp h).resolve_right fun hmem => ?_)
      exact hlast (mem_singleton.mp hmem)

theorem providerRank_inj {a b : Provider} (ha : a ∈ providers) (hb : b ∈ providers)
    (h : providerRank providers a = providerRank providers b) : a = b := by
  obtain ⟨place, hplace⟩ := lookup_of_mem ha
  obtain ⟨place', hplace'⟩ := lookup_of_mem hb
  unfold providerRank at h
  rw [hplace, hplace', Option.getD_some, Option.getD_some] at h
  subst h
  exact Option.some.inj ((place_of_lookup hplace).symm.trans (place_of_lookup hplace'))

theorem mem_providerFirst {configured : List Provider} {item : Provider} (h : item ∈ configured) :
    item ∈ providerFirst provider configured := by
  unfold providerFirst
  by_cases hfirst : item = provider
  · exact hfirst ▸ mem_cons_self
  · exact mem_cons_of_mem _ (mem_filter.mpr ⟨h, by simpa using hfirst⟩)

theorem mem_pricingProviderPriority {instrument : InstrumentId} (h : provider ∈ policy.configured) :
    provider ∈ pricingProviderPriority policy asOf instrument := by
  unfold pricingProviderPriority
  split
  · exact h
  · split
    · exact mem_providerFirst h
    · split
      · exact mem_providerFirst h
      · exact h

/-- The providers are ranked, each gives one quote for an instrument, and the quotes of an
instrument agree on whether it is an SPXW option. -/
structure Ranked (policy : SelectionPolicy) (quotes : List Quote) : Prop where
  configured : ∀ quote ∈ quotes, quote.provider ∈ policy.configured
  distinct : ∀ a ∈ quotes, ∀ b ∈ quotes, SameKey a b → a = b
  spxw : ∀ a ∈ quotes, ∀ b ∈ quotes, a.instrument.canonicalId = b.instrument.canonicalId →
    policy.isSpxw a.instrument = policy.isSpxw b.instrument

variable {others : List Quote}

theorem Ranked.subset (h : Ranked policy quotes) (hsub : others ⊆ quotes) :
    Ranked policy others where
  configured quote hquote := h.configured quote (hsub hquote)
  distinct a ha b hb := h.distinct a (hsub ha) b (hsub hb)
  spxw a ha b hb := h.spxw a (hsub ha) b (hsub hb)

theorem chooseBestQuote_perm (hperm : quotes.Perm others)
    (hinj : ∀ a ∈ quotes, ∀ b ∈ quotes,
      providerRank priority a.provider = providerRank priority b.provider → a = b) :
    chooseBestQuote asOf priority quotes = chooseBestQuote asOf priority others := by
  refine argmax_perm (hperm.filter _) fun a ha b hb hkey => ?_
  apply hinj a (mem_of_mem_filter ha) b (mem_of_mem_filter hb)
  have hrest := congrArg (fun key : SortKey => (ofLex (ofLex key).2).1) hkey
  exact_mod_cast neg_inj.mp hrest

theorem pricingProviderPriority_congr {a b : InstrumentId} (h : policy.isSpxw a = policy.isSpxw b) :
    pricingProviderPriority policy asOf a = pricingProviderPriority policy asOf b := by
  unfold pricingProviderPriority
  rw [h]

theorem bestQuote_of_agreeing {instrument : InstrumentId}
    (hspxw : ∀ quote ∈ quotes, policy.isSpxw quote.instrument = policy.isSpxw instrument) :
    bestQuote policy asOf quotes =
      chooseBestQuote asOf (pricingProviderPriority policy asOf instrument) (quotes.filter
        fun quote => mayPrice policy asOf (policy.isSpxw instrument) quote.provider) := by
  cases quotes with
  | nil => rfl
  | cons head tail =>
    unfold bestQuote
    rw [pricingCandidates_cons, hspxw head mem_cons_self]
    split
    · rename_i hempty
      rw [hempty]
      rfl
    · rename_i first rest hcandidates
      have hfirst : first ∈ head :: tail :=
        mem_of_mem_filter (hcandidates ▸ mem_cons_self)
      rw [hcandidates, pricingProviderPriority_congr (hspxw first hfirst)]

theorem bestQuote_perm {id : Text} (hperm : quotes.Perm others) (hranked : Ranked policy quotes)
    (hid : ∀ quote ∈ quotes, quote.instrument.canonicalId = id) :
    bestQuote policy asOf quotes = bestQuote policy asOf others := by
  cases hquotes : quotes with
  | nil =>
    rw [hquotes] at hperm
    rw [← hperm.nil_eq]
  | cons head tail =>
    have hhead : head ∈ quotes := hquotes ▸ mem_cons_self
    have hspxw : ∀ quote ∈ quotes,
        policy.isSpxw quote.instrument = policy.isSpxw head.instrument := by
      intro quote hquote
      exact hranked.spxw quote hquote head hhead ((hid quote hquote).trans (hid head hhead).symm)
    rw [← hquotes, bestQuote_of_agreeing hspxw,
      bestQuote_of_agreeing fun quote hquote => hspxw quote (hperm.mem_iff.mpr hquote)]
    refine chooseBestQuote_perm (hperm.filter _) fun a ha b hb hrank => ?_
    have ha' := mem_of_mem_filter ha
    have hb' := mem_of_mem_filter hb
    have hprovider := providerRank_inj
      (mem_pricingProviderPriority (hranked.configured a ha'))
      (mem_pricingProviderPriority (hranked.configured b hb')) hrank
    exact hranked.distinct a ha' b hb' ⟨(hid a ha').trans (hid b hb').symm, hprovider⟩

/-- **Where the providers are ranked, the order of the quotes does not matter.** -/
theorem selectBestQuotes_perm (hperm : quotes.Perm others) (hranked : Ranked policy quotes) :
    selectBestQuotes policy asOf quotes = selectBestQuotes policy asOf others := by
  have hids : instrumentIds quotes = instrumentIds others := by
    apply (instrumentIds_sorted quotes).eq_of_mem_iff (instrumentIds_sorted others)
    intro id
    rw [mem_instrumentIds, mem_instrumentIds]
    constructor
    · rintro ⟨quote, hquote, hid⟩
      exact ⟨quote, hperm.mem_iff.mp hquote, hid⟩
    · rintro ⟨quote, hquote, hid⟩
      exact ⟨quote, hperm.mem_iff.mpr hquote, hid⟩
  unfold selectBestQuotes
  rw [hids]
  apply filterMap_congr
  intro id _
  apply bestQuote_perm (hperm.filter _)
  · exact hranked.subset (filter_sublist.subset)
  · intro quote hquote
    simpa using of_mem_filter hquote

end SpxSpark.Storage
