import SpxSpark.Lib.IsoTime
import SpxSpark.Lib.MergeTree
import SpxSpark.Storage.OptionMerge

/-!
# MergeOrder — in which order observations of an option are merged

The Greeks and the open interest of a merged row carry the time at which they were observed, so
every tree of merges picks the latest of each.
-/

namespace SpxSpark.Storage

open Lib List

variable {reader : RawReader}

/-! ## The order of pricing keys -/

variable {a b : PricingKey}

theorem PricingKey.less_iff : a.less b = true ↔
    a.hasPrice = false ∧ b.hasPrice = true ∨
      a.hasPrice = b.hasPrice ∧ (a.pricedAt < b.pricedAt ∨
        a.pricedAt = b.pricedAt ∧ (a.observedAt < b.observedAt ∨
          a.observedAt = b.observedAt ∧ a.hasMid = false ∧ b.hasMid = true)) := by
  unfold PricingKey.less
  by_cases hprice : a.hasPrice = b.hasPrice
  · rw [if_neg (not_not.mpr hprice)]
    by_cases hpriced : a.pricedAt = b.pricedAt
    · rw [if_neg (not_not.mpr hpriced)]
      by_cases hobserved : a.observedAt = b.observedAt
      · rw [if_neg (not_not.mpr hobserved)]
        simp [hprice, hpriced, hobserved]
      · rw [if_pos hobserved]
        simp [hprice, hpriced, hobserved]
    · rw [if_pos hpriced]
      simp [hprice, hpriced]
  · rw [if_pos hprice]
    cases ha : a.hasPrice <;> cases hb : b.hasPrice <;> simp_all

/-- One key is at most another where it is not larger. -/
instance : LE PricingKey := ⟨fun a b => b.less a = false⟩

theorem PricingKey.le_iff : a ≤ b ↔ ¬b.less a = true :=
  Bool.not_eq_true _ ▸ Iff.rfl

instance : PartialOrder PricingKey where
  le_refl a := by
    rw [PricingKey.le_iff, PricingKey.less_iff]
    simp
  le_trans a b c hab hbc := by
    rw [PricingKey.le_iff, PricingKey.less_iff] at *
    grind
  le_antisymm a b hab hba := by
    obtain ⟨price, priced, observed, mid⟩ := a
    obtain ⟨price', priced', observed', mid'⟩ := b
    rw [PricingKey.le_iff, PricingKey.less_iff] at hab hba
    simp only [PricingKey.mk.injEq]
    grind

theorem PricingKey.le_of_less (h : a.less b = true) : a ≤ b := by
  rw [PricingKey.le_iff, PricingKey.less_iff]
  rw [PricingKey.less_iff] at h
  grind

/-! ## What one merge writes -/

section OneMerge

variable {left right merged : Quote}

/-- The row whose price a merge takes. -/
def pricingSource (reader : RawReader) (left right : Quote) : Quote :=
  if (pricingKey reader left).less (pricingKey reader right) then right else left

theorem pricingSource_mem : pricingSource reader left right ∈ [left, right] := by
  unfold pricingSource
  split <;> simp

theorem pricingSource_max {row : Quote} (hrow : row ∈ [left, right]) :
    pricingKey reader row ≤ pricingKey reader (pricingSource reader left right) := by
  unfold pricingSource
  by_cases hless : (pricingKey reader left).less (pricingKey reader right) = true
  · rw [if_pos hless]
    rcases mem_pair.mp hrow with rfl | rfl
    · exact PricingKey.le_of_less hless
    · exact le_rfl
  · rw [if_neg hless]
    rcases mem_pair.mp hrow with rfl | rfl
    · exact le_rfl
    · exact PricingKey.le_iff.mpr hless

/-- A time that may be missing, in the order in which a missing one comes first. -/
def timeKey (time : Option Instant) : WithBot Instant := time

variable {time : Quote → Option Instant}

theorem latestWith_none :
    latestWith time left right = none ↔ time left = none ∧ time right = none := by
  unfold latestWith
  cases time left <;> cases time right <;> simp

theorem latestWith_some {row : Quote} (h : latestWith time left right = some row) :
    row ∈ [left, right] ∧ (time row).isSome = true ∧
      ∀ other ∈ [left, right], timeKey (time other) ≤ timeKey (time row) := by
  unfold latestWith at h
  cases hl : time left with
  | none =>
    cases hr : time right with
    | none => simp [hl, hr] at h
    | some r =>
      obtain rfl : right = row := by simpa [hl, hr] using h
      refine ⟨by simp, by rw [hr]; rfl, fun other hother => ?_⟩
      rcases mem_pair.mp hother with rfl | rfl
      · rw [hl]
        exact bot_le
      · exact le_refl _
  | some l =>
    cases hr : time right with
    | none =>
      obtain rfl : left = row := by simpa [hl, hr] using h
      refine ⟨by simp, by rw [hl]; rfl, fun other hother => ?_⟩
      rcases mem_pair.mp hother with rfl | rfl
      · exact le_refl _
      · rw [hr]
        exact bot_le
    | some r =>
      have hrow : (if l < r then right else left) = row := by simpa [hl, hr] using h
      by_cases hlt : l < r
      · obtain rfl : right = row := by rwa [if_pos hlt] at hrow
        refine ⟨by simp, by rw [hr]; rfl, fun other hother => ?_⟩
        rcases mem_pair.mp hother with rfl | rfl
        · rw [hl, hr]
          exact WithBot.coe_le_coe.mpr hlt.le
        · exact le_refl _
      · obtain rfl : left = row := by rwa [if_neg hlt] at hrow
        refine ⟨by simp, by rw [hl]; rfl, fun other hother => ?_⟩
        rcases mem_pair.mp hother with rfl | rfl
        · exact le_refl _
        · rw [hl, hr]
          exact WithBot.coe_le_coe.mpr (not_lt.mp hlt)

theorem greeksTime_eq_none {quote : Quote} : greeksTime reader quote = none ↔ quote.greeks = none :=
  Option.map_eq_none_iff

theorem openInterestTime_eq_none {quote : Quote} :
    openInterestTime reader quote = none ↔ quote.openInterest = none :=
  Option.map_eq_none_iff

/-- What `merge_option_observations` returns, group by group. -/
structure Merged (reader : RawReader) (left right merged : Quote) : Prop where
  instrument : merged.instrument = (pricingSource reader left right).instrument
  provider : merged.provider = (pricingSource reader left right).provider
  received : merged.receivedAt = max left.receivedAt right.receivedAt
  prices : merged.toPriceFields = (pricingSource reader left right).toPriceFields
  greeks : merged.greeks = (latestWith (greeksTime reader) left right).bind (·.greeks)
  openInterest :
    merged.openInterest = (latestWith (openInterestTime reader) left right).bind (·.openInterest)
  raw : merged.raw = (((pricingSource reader left right).raw.update
      (fieldProvenance reader (pricingSource reader left right) .pricing
        (pricingObservedAt reader (pricingSource reader left right))
        (some (pricingTime (pricingSource reader left right))))).update
      (sourceProvenance reader (latestWith (greeksTime reader) left right) .greeks)).update
      (sourceProvenance reader (latestWith (openInterestTime reader) left right) .openInterest)

theorem merge_merged (h : mergeOptionObservations reader left right = .ok merged) :
    Merged reader left right merged := by
  unfold mergeOptionObservations at h
  split at h
  · cases h
  split at h
  · cases h
  dsimp only at h
  split at h
  · rename_i htimes
    obtain ⟨hgreeks, hinterest⟩ := append_eq_nil_iff.mp htimes
    rw [Option.toList_eq_nil_iff, Option.map_eq_none_iff] at hgreeks hinterest
    -- neither row has Greeks or an open interest, so the source of the price has none to keep
    have hno : ∀ quote ∈ [left, right], quote.greeks = none ∧ quote.openInterest = none := by
      obtain ⟨hl, hr⟩ := latestWith_none.mp hgreeks
      obtain ⟨hl', hr'⟩ := latestWith_none.mp hinterest
      intro quote hquote
      rcases mem_pair.mp hquote with rfl | rfl
      · exact ⟨greeksTime_eq_none.mp hl, openInterestTime_eq_none.mp hl'⟩
      · exact ⟨greeksTime_eq_none.mp hr, openInterestTime_eq_none.mp hr'⟩
    obtain ⟨hsg, hso⟩ := hno (pricingSource reader left right) pricingSource_mem
    obtain rfl := Except.ok.inj h
    refine ⟨rfl, rfl, rfl, rfl, ?_, ?_, rfl⟩
    · rw [hgreeks]
      exact hsg
    · rw [hinterest]
      exact hso
  · obtain rfl := Except.ok.inj h
    exact ⟨rfl, rfl, rfl, rfl, rfl, rfl, rfl⟩

theorem merge_isOk (reader : RawReader) (hoption : left.instrument = right.instrument)
    (hprovider : left.provider = right.provider) :
    ∃ merged, mergeOptionObservations reader left right = .ok merged := by
  unfold mergeOptionObservations
  rw [if_neg (not_not.mpr (congrArg _ hoption)), if_neg (not_not.mpr hprovider)]
  dsimp only
  split <;> exact ⟨_, rfl⟩

end OneMerge

/-! ## The clocks of a merged row -/

section Clocks

variable {quote left right merged : Quote} {field other : Field}

theorem Field.key_ne (h : field ≠ other) (part part' : String) :
    field.key part ≠ other.key part' := by
  -- the three names begin with different letters
  intro hkey
  have hhead : field.name.head? = other.name.head? := by
    have := congrArg List.head? hkey
    cases field <;> cases other <;> exact this
  revert h hhead
  cases field <;> cases other <;> decide

theorem fieldProvenance_observed (observedAt : Instant) (sourceAt : Option Instant) :
    (fieldProvenance reader quote field observedAt sourceAt).lookup (field.key "observed_at") =
      some (.string (reader.isoformat observedAt)) :=
  AList.lookup_insert _

theorem fieldProvenance_other (h : other ≠ field) (observedAt : Instant)
    (sourceAt : Option Instant) (part : String) :
    (fieldProvenance reader quote field observedAt sourceAt).lookup (other.key part) = none := by
  unfold fieldProvenance
  dsimp only
  have hne : ∀ part', other.key part ≠ field.key part' := Field.key_ne h part
  rw [AList.lookup_insert_ne (hne _), AList.lookup_insert_ne (hne _),
    AList.lookup_insert_ne (hne _), AList.lookup_insert_ne (hne _),
    AList.lookup_insert_ne (hne _), AList.lookup_insert_ne (hne _),
    AList.lookup_insert_ne (hne _)]
  cases sourceAt with
  | none => exact AList.lookup_empty _
  | some time =>
    show (AList.singleton _ _ : Raw).lookup _ = none
    rw [AList.lookup_eq_none, Dict.mem_singleton_dict]
    exact hne _

theorem sourceProvenance_other (h : other ≠ field) (source : Option Quote) (part : String) :
    (sourceProvenance reader source field).lookup (other.key part) = none := by
  cases source with
  | none => exact AList.lookup_empty _
  | some quote => exact fieldProvenance_other h _ _ part

theorem explicitTime_of_lookup {time : Instant}
    (h : quote.raw.lookup (field.key "observed_at") = some (.string (reader.isoformat time))) :
    explicitTime reader quote field = some time := by
  unfold explicitTime
  rw [h]
  exact reader.parse_isoformat time

theorem fieldTime_of_explicit {time : Instant} (h : explicitTime reader quote field = some time) :
    fieldTime reader quote field = time := by
  unfold fieldTime
  rw [h]

section

variable (h : Merged reader left right merged)

include h

theorem Merged.explicit_pricing : explicitTime reader merged .pricing =
      some (pricingObservedAt reader (pricingSource reader left right)) := by
  apply explicitTime_of_lookup
  rw [h.raw, Dict.lookup_update, sourceProvenance_other (by decide), Option.none_or,
    Dict.lookup_update, sourceProvenance_other (by decide), Option.none_or, Dict.lookup_update,
    fieldProvenance_observed, Option.some_or]

theorem Merged.explicit_greeks (hsource : latestWith (greeksTime reader) left right = some quote) :
    explicitTime reader merged .greeks = some (fieldTime reader quote .greeks) := by
  apply explicitTime_of_lookup
  rw [h.raw, Dict.lookup_update, sourceProvenance_other (by decide), Option.none_or,
    Dict.lookup_update, hsource]
  show ((fieldProvenance reader quote .greeks _ none).lookup _).or _ = _
  rw [fieldProvenance_observed, Option.some_or]

theorem Merged.explicit_openInterest
    (hsource : latestWith (openInterestTime reader) left right = some quote) :
    explicitTime reader merged .openInterest = some (fieldTime reader quote .openInterest) := by
  apply explicitTime_of_lookup
  rw [h.raw, Dict.lookup_update, hsource]
  show ((fieldProvenance reader quote .openInterest _ none).lookup _).or _ = _
  rw [fieldProvenance_observed, Option.some_or]

omit h in
theorem picks_latest {β : Type} {val : Quote → Option β}
    (hmissing : ∀ quote, time quote = none ↔ val quote = none)
    (hval : val merged = (latestWith time left right).bind val)
    (htime : ∀ row, latestWith time left right = some row → val merged = val row →
      time merged = time row) :
    Picks (fun quote => timeKey (time quote)) val merged [left, right] := by
  unfold Picks
  dsimp only
  cases hsource : latestWith time left right with
  | none =>
    obtain ⟨hl, hr⟩ := latestWith_none.mp hsource
    have hnone : val merged = none := by rw [hval, hsource]; rfl
    refine ⟨left, mem_cons_self, fun row hrow => ?_, ?_, ?_⟩
    · rcases mem_pair.mp hrow with rfl | rfl
      · exact le_refl _
      · rw [hl, hr]
    · rw [hl, (hmissing merged).mpr hnone]
    · rw [hnone, (hmissing left).mp hl]
  | some row =>
    obtain ⟨hrow, -, hmax⟩ := latestWith_some hsource
    have hsame : val merged = val row := by rw [hval, hsource]; rfl
    exact ⟨row, hrow, hmax, by rw [htime row hsource hsame], hsame⟩

theorem Merged.picks_greeks :
    Picks (fun quote => timeKey (greeksTime reader quote)) (·.greeks) merged [left, right] := by
  refine picks_latest (fun quote => greeksTime_eq_none) h.greeks fun row hsource hsame => ?_
  unfold greeksTime
  rw [hsame, fieldTime_of_explicit (h.explicit_greeks hsource)]

theorem Merged.picks_openInterest :
    Picks (fun quote => timeKey (openInterestTime reader quote)) (·.openInterest) merged
      [left, right] := by
  refine picks_latest (fun quote => openInterestTime_eq_none) h.openInterest
    fun row hsource hsame => ?_
  unfold openInterestTime
  rw [hsame, fieldTime_of_explicit (h.explicit_openInterest hsource)]

end

end Clocks

/-! ## Renewed receipts -/

/-- The row itself says when its price was quoted or traded. -/
def Stamped (quote : Quote) : Prop := quote.quoteTime.isSome = true ∨ quote.tradeTime.isSome = true

instance (quote : Quote) : Decidable (Stamped quote) := inferInstanceAs (Decidable (_ ∨ _))

/-- A row that is kept over another either says when it was priced, or was received no earlier. -/
def NoRenewal (reader : RawReader) (rows : List Quote) : Prop :=
  ∀ kept ∈ rows, ∀ other ∈ rows, (pricingKey reader other).less (pricingKey reader kept) = true →
    Stamped kept ∨ other.receivedAt ≤ kept.receivedAt

/-- Observations of one option from one provider. -/
def OneOption (rows : List Quote) : Prop :=
  ∀ a ∈ rows, ∀ b ∈ rows, a.instrument = b.instrument ∧ a.provider = b.provider

/-- No two rows have one pricing key, one time of Greeks or one time of open interest. -/
structure Untied (reader : RawReader) (rows : List Quote) : Prop where
  pricing : rows.Pairwise fun a b => pricingKey reader a ≠ pricingKey reader b
  greeks : rows.Pairwise fun a b => a.greeks.isSome = true → b.greeks.isSome = true →
    fieldTime reader a .greeks ≠ fieldTime reader b .greeks
  openInterest : rows.Pairwise fun a b => a.openInterest.isSome = true →
    b.openInterest.isSome = true →
      fieldTime reader a .openInterest ≠ fieldTime reader b .openInterest

/-- Merges in any order and any grouping of the rows. -/
abbrev mergeTree (reader : RawReader) (tree : MergeTree Quote) : Except MergeError Quote :=
  tree.fold (mergeOptionObservations reader)

/-- Every order and grouping gives one price, one set of Greeks and one open interest, and each has
the times of the row it is from. -/
structure MergesFaithfully (reader : RawReader) (rows : List Quote) : Prop where
  sameValues : ∀ tree tree' : MergeTree Quote, tree.rows.Perm rows → tree'.rows.Perm rows →
    ∃ m m', mergeTree reader tree = .ok m ∧ mergeTree reader tree' = .ok m' ∧
      m.toPriceFields = m'.toPriceFields ∧ m.greeks = m'.greeks ∧ m.openInterest = m'.openInterest
  priceTimes : ∀ (tree : MergeTree Quote) m, tree.rows.Perm rows → mergeTree reader tree = .ok m →
    ∃ row ∈ rows, m.toPriceFields = row.toPriceFields ∧ pricingTime m = pricingTime row ∧
      pricingObservedAt reader m = pricingObservedAt reader row
  greeksTimes : ∀ (tree : MergeTree Quote) m, tree.rows.Perm rows → mergeTree reader tree = .ok m →
    m.greeks.isSome = true →
      ∃ row ∈ rows, m.greeks = row.greeks ∧
        fieldTime reader m .greeks = fieldTime reader row .greeks
  openInterestTimes : ∀ (tree : MergeTree Quote) m, tree.rows.Perm rows →
    mergeTree reader tree = .ok m → m.openInterest.isSome = true →
      ∃ row ∈ rows, m.openInterest = row.openInterest ∧
        fieldTime reader m .openInterest = fieldTime reader row .openInterest

section Renewal

variable {rows part : List Quote} {left right merged quote row : Quote}

theorem pricingTime_unstamped (h : ¬Stamped quote) : pricingTime quote = quote.receivedAt := by
  unfold Stamped at h
  unfold pricingTime
  cases hquote : quote.quoteTime with
  | some time => simp [hquote] at h
  | none =>
    cases htrade : quote.tradeTime with
    | some time => simp [htrade] at h
    | none => rfl

theorem pricingTime_stamped (h : Stamped quote) (hsame : row.toPriceFields = quote.toPriceFields) :
    pricingTime row = pricingTime quote := by
  have hquote : row.quoteTime = quote.quoteTime := congrArg PriceFields.quoteTime hsame
  have htrade : row.tradeTime = quote.tradeTime := congrArg PriceFields.tradeTime hsame
  unfold pricingTime
  rw [hquote, htrade]
  unfold Stamped at h
  cases hq : quote.quoteTime with
  | some time => rfl
  | none =>
    cases ht : quote.tradeTime with
    | some time => rfl
    | none => simp [hq, ht] at h

theorem stamped_congr (hsame : row.toPriceFields = quote.toPriceFields) :
    Stamped row ↔ Stamped quote := by
  have hquote : row.quoteTime = quote.quoteTime := congrArg PriceFields.quoteTime hsame
  have htrade : row.tradeTime = quote.tradeTime := congrArg PriceFields.tradeTime hsame
  unfold Stamped
  rw [hquote, htrade]

theorem mid_congr (hsame : row.toPriceFields = quote.toPriceFields)
    (hoption : row.instrument = quote.instrument) : row.mid = quote.mid := by
  have hbid : row.bid = quote.bid := congrArg PriceFields.bid hsame
  have hask : row.ask = quote.ask := congrArg PriceFields.ask hsame
  unfold Quote.mid
  rw [hbid, hask, hoption]

theorem hasPrice_congr (hsame : row.toPriceFields = quote.toPriceFields)
    (hoption : row.instrument = quote.instrument) : row.hasPrice = quote.hasPrice := by
  have hmark : row.mark = quote.mark := congrArg PriceFields.mark hsame
  have hlast : row.last = quote.last := congrArg PriceFields.last hsame
  have hclose : row.close = quote.close := congrArg PriceFields.close hsame
  unfold Quote.hasPrice Quote.effectivePrice
  rw [hmark, hlast, hclose, mid_congr hsame hoption]

theorem Merged.observed (h : Merged reader left right merged) : pricingObservedAt reader merged =
      pricingObservedAt reader (pricingSource reader left right) := by
  rw [pricingObservedAt, h.explicit_pricing]
  rfl

/-- The key of a merged row is that of the row its price is from, but for a receipt that stands in
for the time of the price. -/
theorem Merged.key (h : Merged reader left right merged)
    (htime : pricingTime merged = pricingTime (pricingSource reader left right)) :
    pricingKey reader merged = pricingKey reader (pricingSource reader left right) := by
  unfold pricingKey
  rw [htime, h.observed, hasPrice_congr h.prices h.instrument, mid_congr h.prices h.instrument]

theorem Untied.eq_of_key (h : Untied reader rows) (hquote : quote ∈ rows) (hrow : row ∈ rows)
    (hkey : pricingKey reader quote = pricingKey reader row) : quote = row := by
  have : Std.Symm fun a b => pricingKey reader a ≠ pricingKey reader b := ⟨fun _ _ hab => hab.symm⟩
  by_contra hne
  exact h.pricing.forall hquote hrow hne hkey

theorem PricingKey.less_or_eq (h : a ≤ b) : a.less b = true ∨ a = b := by
  by_cases hless : a.less b = true
  · exact .inl hless
  · exact .inr (le_antisymm h (PricingKey.le_iff.mpr hless))

/-! ## The price of a tree of merges -/

/-- What the result of a tree of merges has of the rows behind it. -/
structure PriceKept (reader : RawReader) (part : List Quote) (merged : Quote) : Prop where
  picks : Picks (pricingKey reader) (·.toPriceFields) merged part
  latest : ∀ row ∈ part, row.receivedAt ≤ merged.receivedAt
  attained : ∃ row ∈ part, merged.receivedAt = row.receivedAt
  instrument : ∃ row ∈ part, merged.instrument = row.instrument
  provider : ∃ row ∈ part, merged.provider = row.provider

theorem PriceKept.single (quote : Quote) : PriceKept reader [quote] quote where
  picks := Picks.row quote
  latest := fun _ hrow => (mem_singleton.mp hrow) ▸ le_rfl
  attained := ⟨quote, mem_singleton_self quote, rfl⟩
  instrument := ⟨quote, mem_singleton_self quote, rfl⟩
  provider := ⟨quote, mem_singleton_self quote, rfl⟩

theorem PriceKept.node {partL partR : List Quote} {a b : Quote} (huntied : Untied reader rows)
    (hrenewal : NoRenewal reader rows) (hpart : ∀ row ∈ partL ++ partR, row ∈ rows)
    (hl : PriceKept reader partL a)
    (hr : PriceKept reader partR b) (h : Merged reader a b merged) :
    PriceKept reader (partL ++ partR) merged := by
  have hlatest : ∀ row ∈ partL ++ partR, row.receivedAt ≤ merged.receivedAt := by
    intro row hrow
    rw [h.received]
    rcases mem_append.mp hrow with hrow | hrow
    · exact (hl.latest row hrow).trans (le_max_left _ _)
    · exact (hr.latest row hrow).trans (le_max_right _ _)
  have hattained : ∃ row ∈ partL ++ partR, merged.receivedAt = row.receivedAt := by
    obtain ⟨x, hx, hxe⟩ := hl.attained
    obtain ⟨y, hy, hye⟩ := hr.attained
    rw [h.received]
    rcases max_choice a.receivedAt b.receivedAt with hmax | hmax
    · exact ⟨x, mem_append_left _ hx, hmax.trans hxe⟩
    · exact ⟨y, mem_append_right _ hy, hmax.trans hye⟩
  -- the source of the price was itself picked from one row, and no row exceeds that one
  have hsource : Picks (pricingKey reader) (·.toPriceFields) (pricingSource reader a b)
      (partL ++ partR) := by
    refine Picks.node ?_ hl.picks hr.picks
    exact ⟨_, pricingSource_mem, fun row hrow => pricingSource_max hrow, rfl, rfl⟩
  obtain ⟨best, hbest, hmax, hkey, hprices⟩ := hsource
  have hprices' : merged.toPriceFields = best.toPriceFields := h.prices.trans hprices
  have htime : pricingTime merged = pricingTime (pricingSource reader a b) := by
    have hpriced : pricingTime (pricingSource reader a b) = pricingTime best :=
      congrArg PricingKey.pricedAt hkey
    rw [hpriced]
    by_cases hstamped : Stamped best
    · exact pricingTime_stamped hstamped hprices'
    · rw [pricingTime_unstamped hstamped,
        pricingTime_unstamped ((stamped_congr hprices').not.mpr hstamped)]
      -- every row behind the result is below the picked one, so its receipt is not later
      obtain ⟨row, hrow, hreceived⟩ := hattained
      refine le_antisymm ?_ (hlatest best hbest)
      rw [hreceived]
      rcases PricingKey.less_or_eq (hmax row hrow) with hless | hsame
      · exact (hrenewal best (hpart best hbest) row (hpart row hrow) hless).resolve_left hstamped
      · rw [huntied.eq_of_key (hpart row hrow) (hpart best hbest) hsame]
  have hmember : ∀ quote ∈ [a, b], (∃ row ∈ partL ++ partR, quote.instrument = row.instrument) ∧
      ∃ row ∈ partL ++ partR, quote.provider = row.provider := by
    obtain ⟨i, hi, hie⟩ := hl.instrument
    obtain ⟨j, hj, hje⟩ := hr.instrument
    obtain ⟨k, hk, hke⟩ := hl.provider
    obtain ⟨m, hm, hme⟩ := hr.provider
    intro quote hquote
    rcases mem_pair.mp hquote with rfl | rfl
    · exact ⟨⟨i, mem_append_left _ hi, hie⟩, k, mem_append_left _ hk, hke⟩
    · exact ⟨⟨j, mem_append_right _ hj, hje⟩, m, mem_append_right _ hm, hme⟩
  obtain ⟨hinstrument, hprovider⟩ := hmember (pricingSource reader a b) pricingSource_mem
  refine ⟨⟨best, hbest, hmax, (h.key htime).trans hkey, hprices'⟩, hlatest, hattained, ?_, ?_⟩
  · rwa [h.instrument]
  · rwa [h.provider]

theorem mergeTree_kept (huntied : Untied reader rows) (hrenewal : NoRenewal reader rows)
    (hoption : OneOption rows) (tree : MergeTree Quote) (hrows : ∀ row ∈ tree.rows, row ∈ rows) :
    ∃ merged, mergeTree reader tree = .ok merged ∧ PriceKept reader tree.rows merged := by
  induction tree with
  | row value => exact ⟨value, rfl, PriceKept.single value⟩
  | node left right ihl ihr =>
    obtain ⟨a, ha, hkl⟩ := ihl fun row hrow => hrows row (mem_append_left _ hrow)
    obtain ⟨b, hb, hkr⟩ := ihr fun row hrow => hrows row (mem_append_right _ hrow)
    obtain ⟨i, hi, hie⟩ := hkl.instrument
    obtain ⟨j, hj, hje⟩ := hkr.instrument
    obtain ⟨k, hk, hke⟩ := hkl.provider
    obtain ⟨m, hm, hme⟩ := hkr.provider
    have hi' := hrows i (mem_append_left _ hi)
    have hj' := hrows j (mem_append_right _ hj)
    have hk' := hrows k (mem_append_left _ hk)
    have hm' := hrows m (mem_append_right _ hm)
    have hinstrument : a.instrument = b.instrument := by
      rw [hie, hje, (hoption i hi' j hj').1]
    have hprovider : a.provider = b.provider := by
      rw [hke, hme, (hoption k hk' m hm').2]
    obtain ⟨merged, hmerged⟩ := merge_isOk reader hinstrument hprovider
    exact ⟨merged, MergeTree.fold_node.mpr ⟨a, b, ha, hb, hmerged⟩,
      PriceKept.node huntied hrenewal hrows hkl hkr (merge_merged hmerged)⟩

variable {tree : MergeTree Quote}

theorem mergeTree_greeks (h : mergeTree reader tree = .ok merged) :
    Picks (fun quote => timeKey (greeksTime reader quote)) (·.greeks) merged tree.rows :=
  Picks.fold (fun _ _ _ hmerge => (merge_merged hmerge).picks_greeks) h

theorem mergeTree_openInterest (h : mergeTree reader tree = .ok merged) :
    Picks (fun quote => timeKey (openInterestTime reader quote)) (·.openInterest) merged
      tree.rows :=
  Picks.fold (fun _ _ _ hmerge => (merge_merged hmerge).picks_openInterest) h

theorem value_eq_of_time {β : Type} {field : Field} {val : Quote → Option β}
    (hties : rows.Pairwise fun a b => (val a).isSome = true → (val b).isSome = true →
      fieldTime reader a field ≠ fieldTime reader b field)
    (hquote : quote ∈ rows) (hrow : row ∈ rows)
    (htime : (val quote).map (fun _ => fieldTime reader quote field) =
      (val row).map fun _ => fieldTime reader row field) : val quote = val row := by
  have : Std.Symm fun a b : Quote => (val a).isSome = true → (val b).isSome = true →
      fieldTime reader a field ≠ fieldTime reader b field :=
    ⟨fun _ _ hab hb ha => (hab ha hb).symm⟩
  by_cases hsame : quote = row
  · rw [hsame]
  have hne := hties.forall hquote hrow hsame
  cases hq : val quote with
  | none =>
    rw [hq, Option.map_none, eq_comm, Option.map_eq_none_iff] at htime
    exact htime.symm
  | some value =>
    cases hr : val row with
    | none => simp [hq, hr] at htime
    | some other =>
      rw [hq, hr, Option.map_some, Option.map_some, Option.some.injEq] at htime
      exact (hne (by rw [hq]; rfl) (by rw [hr]; rfl) htime).elim

theorem fieldTime_of_picks {β : Type} {field : Field} {val : Quote → Option β}
    (h : Picks (fun quote => timeKey ((val quote).map fun _ => fieldTime reader quote field)) val
      merged part) (hsome : (val merged).isSome = true) : ∃ row ∈ part, val merged = val row ∧
      fieldTime reader merged field = fieldTime reader row field := by
  obtain ⟨row, hrow, -, hkey, hval⟩ := h
  obtain ⟨value, hvalue⟩ := Option.isSome_iff_exists.mp hsome
  have hkey' : (val merged).map (fun _ => fieldTime reader merged field) =
      (val row).map fun _ => fieldTime reader row field := hkey
  rw [← hval, hvalue, Option.map_some, Option.map_some, Option.some.injEq] at hkey'
  exact ⟨row, hrow, hval, hkey'⟩

/-! ## Merges in every order -/

theorem mergesFaithfully_of_noRenewal (hoption : OneOption rows) (huntied : Untied reader rows)
    (hrenewal : NoRenewal reader rows) (hpart : ∀ row ∈ part, row ∈ rows) :
    MergesFaithfully reader part where
  sameValues tree tree' hperm hperm' := by
    have hsub : ∀ row ∈ tree.rows, row ∈ rows := fun row hrow => hpart row (hperm.mem_iff.mp hrow)
    have hsub' : ∀ row ∈ tree'.rows, row ∈ rows :=
      fun row hrow => hpart row (hperm'.mem_iff.mp hrow)
    obtain ⟨m, hm, hkept⟩ := mergeTree_kept huntied hrenewal hoption tree hsub
    obtain ⟨m', hm', hkept'⟩ := mergeTree_kept huntied hrenewal hoption tree' hsub'
    have hsame : tree.rows.Perm tree'.rows := hperm.trans hperm'.symm
    refine ⟨m, m', hm, hm', ?_, ?_, ?_⟩
    · refine (hkept.picks.unique hkept'.picks hsame fun x hx y hy hkey => ?_).2
      rw [huntied.eq_of_key (hsub x hx) (hsub y hy) hkey]
    · exact ((mergeTree_greeks hm).unique (mergeTree_greeks hm') hsame fun x hx y hy htime =>
        value_eq_of_time huntied.greeks (hsub x hx) (hsub y hy) htime).2
    · exact ((mergeTree_openInterest hm).unique (mergeTree_openInterest hm') hsame
        fun x hx y hy htime =>
          value_eq_of_time huntied.openInterest (hsub x hx) (hsub y hy) htime).2
  priceTimes tree m hperm hm := by
    obtain ⟨m', hm', hkept⟩ := mergeTree_kept huntied hrenewal hoption tree
      fun row hrow => hpart row (hperm.mem_iff.mp hrow)
    obtain rfl : m' = m := Except.ok.inj (hm'.symm.trans hm)
    obtain ⟨row, hrow, -, hkey, hprices⟩ := hkept.picks
    exact ⟨row, hperm.mem_iff.mp hrow, hprices, congrArg PricingKey.pricedAt hkey,
      congrArg PricingKey.observedAt hkey⟩
  greeksTimes tree m hperm hm hsome := by
    obtain ⟨row, hrow, hvalue, htime⟩ := fieldTime_of_picks (mergeTree_greeks hm) hsome
    exact ⟨row, hperm.mem_iff.mp hrow, hvalue, htime⟩
  openInterestTimes tree m hperm hm hsome := by
    obtain ⟨row, hrow, hvalue, htime⟩ := fieldTime_of_picks (mergeTree_openInterest hm) hsome
    exact ⟨row, hperm.mem_iff.mp hrow, hvalue, htime⟩

theorem pair_renews {kept other : Quote} (hoption : OneOption [kept, other])
    (hless : (pricingKey reader other).less (pricingKey reader kept) = true)
    (hunstamped : ¬Stamped kept) (hlater : kept.receivedAt < other.receivedAt) :
    ¬MergesFaithfully reader [kept, other] := by
  intro hfaithful
  obtain ⟨hinstrument, hprovider⟩ :=
    hoption kept (mem_cons_self) other (mem_cons_of_mem _ (mem_singleton_self _))
  obtain ⟨merged, hmerged⟩ := merge_isOk reader hinstrument hprovider
  have htree : mergeTree reader (.node (.row kept) (.row other)) = .ok merged :=
    MergeTree.fold_node.mpr ⟨kept, other, rfl, rfl, hmerged⟩
  have h := merge_merged hmerged
  have hsource : pricingSource reader kept other = kept :=
    if_neg (PricingKey.le_iff.mp (PricingKey.le_of_less hless))
  have hprices : merged.toPriceFields = kept.toPriceFields := by rw [h.prices, hsource]
  have htime : pricingTime merged = other.receivedAt := by
    rw [pricingTime_unstamped ((stamped_congr hprices).not.mpr hunstamped), h.received,
      max_eq_right hlater.le]
  obtain ⟨row, hrow, hsame, hpriced, -⟩ := hfaithful.priceTimes _ merged (List.Perm.refl _) htree
  rcases mem_pair.mp hrow with rfl | rfl
  · rw [htime, pricingTime_unstamped hunstamped] at hpriced
    exact hlater.ne' hpriced
  · -- the other row has the same prices and a later time, so it would have been kept
    have hsame' : row.toPriceFields = kept.toPriceFields := hsame.symm.trans hprices
    have hprice : row.hasPrice = kept.hasPrice := hasPrice_congr hsame' hinstrument.symm
    rw [PricingKey.less_iff] at hless
    rcases hless with ⟨hno, hyes⟩ | ⟨-, hless⟩
    · have hno' : row.hasPrice = false := hno
      have hyes' : kept.hasPrice = true := hyes
      rw [hprice, hyes'] at hno'
      cases hno'
    · have hkept : (pricingKey reader kept).pricedAt = kept.receivedAt :=
        pricingTime_unstamped hunstamped
      have hother : (pricingKey reader row).pricedAt = row.receivedAt :=
        pricingTime_unstamped ((stamped_congr hsame').not.mpr hunstamped)
      rw [hkept, hother] at hless
      rcases hless with hless | ⟨heq, -⟩
      · exact lt_asymm hless hlater
      · exact hlater.ne' heq

/-- **Merges of every part are faithful exactly if no receipt is renewed.** -/
theorem option_merges_faithful (reader : RawReader) (rows : List Quote) (hoption : OneOption rows)
    (huntied : Untied reader rows) :
    (∀ part : List Quote, part.Subperm rows → MergesFaithfully reader part) ↔
      NoRenewal reader rows := by
  constructor
  · intro hfaithful kept hkept other hother hless
    by_contra hnot
    rw [not_or, not_le] at hnot
    have hne : kept ≠ other := by
      rintro rfl
      exact PricingKey.le_iff.mp (le_refl _) hless
    have hsub : [kept, other] ⊆ rows :=
      cons_subset.mpr ⟨hkept, cons_subset.mpr ⟨hother, nil_subset _⟩⟩
    have hpair : [kept, other].Subperm rows :=
      subperm_of_subset (nodup_cons.mpr
        ⟨fun hmem => hne (mem_singleton.mp hmem), nodup_singleton _⟩) hsub
    exact pair_renews (fun a ha b hb => hoption a (hsub ha) b (hsub hb)) hless hnot.1 hnot.2
      (hfaithful _ hpair)
  · intro hrenewal part hpart
    exact mergesFaithfully_of_noRenewal hoption huntied hrenewal fun row hrow => hpart.subset hrow

end Renewal

/-! ## A receipt that is renewed -/

/-- Texts in UTC, and no numbers in text. -/
def isoReader : RawReader where
  isoformat := IsoTime.isoformat
  parseTimestamp
    | .string text => IsoTime.fromisoformat text
    | _ => none
  parse_isoformat := IsoTime.fromisoformat_isoformat
  str
    | .string text => text
    | _ => []
  lower := List.map Char.toLower
  isalnum := Char.isAlphanum
  int
    | .int value => some value
    | _ => none

def spxwCall : InstrumentId where
  canonicalId := "option:SPXW:20260721:7500:C".toList
  isOption := true
  expiry := some "20260721".toList

/-- A row without a quote time, priced where it has a mark, and received that many seconds on. -/
def unstamped (mark : Option ℚ) (seconds : Int) : Quote where
  quality := .live
  mark := mark
  instrument := spxwCall
  provider := .schwab
  receivedAt := seconds * 1000000

/-- An old price, a later one, and a row without a price that was received last. -/
def threeRows : List Quote := [unstamped (some 4) 1, unstamped (some 6) 5, unstamped none 10]

/-- The row without a price is merged before, or after, the later price. -/
def earlyReceipt : MergeTree Quote :=
  .node (.node (.row (unstamped (some 4) 1)) (.row (unstamped none 10)))
    (.row (unstamped (some 6) 5))

def lateReceipt : MergeTree Quote :=
  .node (.node (.row (unstamped (some 4) 1)) (.row (unstamped (some 6) 5)))
    (.row (unstamped none 10))

def mergedMark (tree : MergeTree Quote) : Option ℚ :=
  (mergeTree isoReader tree).toOption.bind (·.mark)

theorem mergedMark_of_ok {merged : Quote} (h : mergeTree isoReader tree = .ok merged) :
    mergedMark tree = merged.mark := by
  unfold mergedMark
  rw [h]
  rfl

theorem receipts_mark : mergedMark earlyReceipt = some 4 ∧ mergedMark lateReceipt = some 6 := by
  decide +kernel

/-- The same rows with the times at which they were quoted. -/
def stampedRows : List Quote :=
  threeRows.map fun row => { row with quoteTime := some row.receivedAt }

theorem threeRows_one : OneOption threeRows ∧ OneOption stampedRows := by
  unfold OneOption
  decide +kernel

theorem threeRows_untied : Untied isoReader threeRows ∧ Untied isoReader stampedRows := by
  refine ⟨?_, ?_⟩ <;> constructor <;> decide +kernel

/-- **An old price is kept over a later one when a row without a price comes between.** -/
theorem stale_price_renewed : OneOption threeRows ∧ Untied isoReader threeRows ∧
    ¬MergesFaithfully isoReader threeRows := by
  refine ⟨threeRows_one.1, threeRows_untied.1, fun hfaithful => ?_⟩
  have hearly : earlyReceipt.rows.Perm threeRows :=
    List.Perm.cons _ (List.Perm.swap _ _ _)
  obtain ⟨m, m', hm, hm', hprices, -⟩ :=
    hfaithful.sameValues earlyReceipt lateReceipt hearly (List.Perm.refl _)
  have hmark : m.mark = m'.mark := congrArg PriceFields.mark hprices
  rw [← mergedMark_of_ok hm, ← mergedMark_of_ok hm', receipts_mark.1, receipts_mark.2] at hmark
  cases hmark

theorem option_merges_faithful_stamped : MergesFaithfully isoReader stampedRows :=
  (option_merges_faithful isoReader stampedRows
    threeRows_one.2 threeRows_untied.2).mpr
    (by unfold NoRenewal; decide +kernel) stampedRows (List.Subperm.refl _)

end SpxSpark.Storage
