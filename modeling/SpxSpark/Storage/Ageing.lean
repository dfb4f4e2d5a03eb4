import SpxSpark.MarketCalendar.Agreement
import SpxSpark.Storage.BestQuotes
import SpxSpark.Storage.LatestRuns

/-!
# Ageing — stored rows age as the observations would

Every update writes the aged quality over the quality that was there. The rows of an instrument that
no update brings again are nevertheless the same as if the observations had only been aged once, at
the end, and so the best quotes are the same.
-/

namespace SpxSpark.Storage

open Lib Arrays List

/-! ## The store with its rules -/

/-- The settings of the store, and what it asks of Python. -/
structure StoreSettings where
  reader : RawReader
  rules : FreshnessRules
  zone : MarketCalendar.EasternClock
  isdigit : Char → Bool
  int : Text → Option Int

def StoreSettings.tools (settings : StoreSettings) : StoreTools where
  reader := settings.reader
  agedQuality := degradedQuality settings.reader settings.rules
  researchExpiry now := MarketCalendar.researchExpiry (settings.zone.asEt now)
  isdigit := settings.isdigit
  int := settings.int

/-- What one call of `update` makes of the rows in the file. -/
def storeRows (tools : StoreTools) (stored : List Quote) (batch : Update) :
    Except MergeError (List Quote) :=
  (updateRows tools batch (loadRows tools (.update batch) stored)).map
    fun rows => rows.quotes.map Quote.stored

/-- Calls of `update`, one after the other. -/
def storeAll (tools : StoreTools) (stored : List Quote) (updates : List Update) :
    Except MergeError (List Quote) :=
  updates.foldlM (storeRows tools) stored

/-- Some quotes as they are at a time, without those that have expired. -/
def degradedRows (tools : StoreTools) (now : Instant) (quotes : List Quote) : List Quote :=
  (pruneExpiredOptionQuotes tools now quotes).map (degradeStaleQuote tools now)

/-- The instruments of some observations. -/
def isAmong (observations : List Quote) (id : Text) : Bool :=
  observations.any fun quote => quote.instrument.canonicalId = id

/-- The rows of the instruments of some observations. -/
def rowsAmong (observations rows : List Quote) : List Quote :=
  rows.filter fun row => isAmong observations row.instrument.canonicalId

/-- An update brings none of the observed instruments, and replaces none of their providers. -/
def LeavesAlone (observations : List Quote) (batch : Update) : Prop :=
  (∀ quote ∈ batch.incoming, isAmong observations quote.instrument.canonicalId = false) ∧
    ∀ quote ∈ observations, quote.provider ∉ batch.replaceProviders

/-! ## One row -/

section Row

variable {settings : StoreSettings} {now later : Instant} {quote : Quote}

@[simp] theorem stored_stored (quote : Quote) : quote.stored.stored = quote.stored := by
  unfold Quote.stored impliedVolInValidRange
  dsimp only
  rw [Dict.restrict_restrict]
  cases quote.greeks with
  | none => rfl
  | some greeks => simp [Option.filter_filter]

theorem isExpired_later (hle : now ≤ later) (h : isExpired settings.tools now quote = true) :
    isExpired settings.tools later quote = true := by
  unfold isExpired at h ⊢
  rw [Bool.and_eq_true] at h ⊢
  refine ⟨h.1, ?_⟩
  cases hday : parseOptionExpiryDate settings.tools quote.instrument.expiry with
  | none =>
    rw [hday] at h
    exact h.2
  | some day =>
    rw [hday, Option.any_some, decide_eq_true_eq] at h
    rw [Option.any_some, decide_eq_true_eq]
    exact h.2.trans_le (MarketCalendar.researchExpiry_mono settings.zone hle)

theorem degrade_again (hle : now ≤ later)
    (hskew : ¬IsOvertaken settings.reader now later quote) :
    degradeStaleQuote settings.tools later (degradeStaleQuote settings.tools now quote) =
      degradeStaleQuote settings.tools later quote := by
  show ({ quote with quality := _ } : Quote) = { quote with quality := _ }
  rw [show settings.tools.agedQuality later (degradeStaleQuote settings.tools now quote) =
    settings.tools.agedQuality later quote from degradedQuality_again hle hskew]

theorem IsOvertaken.widen {reader : RawReader} {first last : Instant} (hfirst : first ≤ now)
    (hlast : later ≤ last) (h : IsOvertaken reader now later quote) :
    IsOvertaken reader first last quote := by
  obtain ⟨hprice, hlive, hahead, hnot⟩ := h
  exact ⟨hprice, hlive, hahead.earlier hfirst, fun hlater => hnot (hlater.earlier hlast)⟩

theorem not_isOvertaken_self {reader : RawReader} : ¬IsOvertaken reader now now quote :=
  fun h => h.2.2.2 h.2.2.1

end Row

/-! ## One update, among some instruments -/

section Among

variable {tools : StoreTools} {observations rows quotes : List Quote}

theorem rowsAmong_append (rows quotes : List Quote) : rowsAmong observations (rows ++ quotes) =
      rowsAmong observations rows ++ rowsAmong observations quotes :=
  filter_append _ _

theorem isAmong_iff {id : Text} :
    isAmong observations id = true ↔ ∃ quote ∈ observations, quote.instrument.canonicalId = id := by
  unfold isAmong
  rw [any_eq_true]
  simp

theorem rowsAmong_self : rowsAmong observations observations = observations := by
  unfold rowsAmong
  rw [filter_eq_self]
  intro quote hquote
  exact isAmong_iff.mpr ⟨quote, hquote, rfl⟩

/-- An observation stands beside the rows of its instrument if none has its key, and changes nothing
among the instruments if it is of another. -/
theorem noteLatest_among {result : List Quote} {quote : Quote}
    (hdistinct : ∀ row ∈ rowsAmong observations result,
      isAmong observations quote.instrument.canonicalId = true → ¬SameKey row quote) :
    ∃ next, noteLatest tools result quote = .ok next ∧
      rowsAmong observations next = rowsAmong observations (result ++ [quote]) := by
  induction result with
  | nil => exact ⟨[quote], rfl, rfl⟩
  | cons row rest ih =>
    by_cases hkey : SameKey row quote
    · -- rows of one key are of one instrument, and here of none of the observed ones
      have hother : isAmong observations quote.instrument.canonicalId = false := by
        by_contra hamong
        rw [Bool.not_eq_false] at hamong
        refine hdistinct row (mem_filter.mpr ⟨mem_cons_self, ?_⟩) hamong hkey
        rw [hkey.1]
        exact hamong
      obtain ⟨merged, hmerged⟩ := latestOfTwo_ok tools hkey
      refine ⟨merged :: rest, ?_, ?_⟩
      · rw [noteLatest, if_pos hkey, hmerged]
        rfl
      · have hrow : isAmong observations row.instrument.canonicalId = false := by
          rw [hkey.1]
          exact hother
        have hmergedKey : isAmong observations merged.instrument.canonicalId = false := by
          rw [← (latestOfTwo_spec hkey hmerged).1.1]
          exact hrow
        unfold rowsAmong
        rw [cons_append, filter_cons_of_neg (by rw [hmergedKey]; decide),
          filter_cons_of_neg (by rw [hrow]; decide), filter_append,
          filter_cons_of_neg (by rw [hother]; decide), filter_nil, append_nil]
    · obtain ⟨next, hnext, hamong⟩ := ih fun other hother => hdistinct other
        (mem_filter.mpr ⟨mem_cons_of_mem _ (mem_of_mem_filter hother),
          (mem_filter.mp hother).2⟩)
      refine ⟨row :: next, ?_, ?_⟩
      · rw [noteLatest, if_neg hkey, hnext]
        rfl
      · unfold rowsAmong at hamong ⊢
        rw [cons_append, filter_cons, filter_cons, hamong]

/-- `latest_by_provider` keeps the rows of instruments with one row for each provider. -/
theorem latestByProvider_among (tools : StoreTools)
    (hdistinct : (rowsAmong observations quotes).Pairwise fun a b => ¬SameKey a b) :
    ∃ latest, latestByProvider tools quotes = .ok latest ∧
      rowsAmong observations latest = rowsAmong observations quotes := by
  have hfold : ∀ (quotes result : List Quote),
      (rowsAmong observations (result ++ quotes)).Pairwise (fun a b => ¬SameKey a b) →
      ∃ latest, quotes.foldlM (noteLatest tools) result = .ok latest ∧
        rowsAmong observations latest = rowsAmong observations (result ++ quotes) := by
    intro quotes
    induction quotes with
    | nil =>
      intro result _
      exact ⟨result, rfl, by rw [append_nil]⟩
    | cons quote rest ih =>
      intro result hdistinct
      have hsplit : result ++ quote :: rest = result ++ [quote] ++ rest := by
        rw [append_assoc, singleton_append]
      rw [hsplit] at hdistinct ⊢
      obtain ⟨next, hnext, hamong⟩ : ∃ next, noteLatest tools result quote = .ok next ∧
          rowsAmong observations next = rowsAmong observations (result ++ [quote]) := by
        refine noteLatest_among fun row hrow hquote => ?_
        rw [rowsAmong_append, rowsAmong_append] at hdistinct
        have hbefore := (pairwise_append.mp (pairwise_append.mp hdistinct).1).2.2
        refine hbefore row hrow quote ?_
        exact mem_filter.mpr ⟨mem_singleton_self quote, hquote⟩
      have hkeep : rowsAmong observations (next ++ rest) =
          rowsAmong observations (result ++ [quote] ++ rest) := by
        rw [rowsAmong_append, hamong, ← rowsAmong_append]
      obtain ⟨latest, hlatest, hrest⟩ := ih next (hkeep ▸ hdistinct)
      refine ⟨latest, ?_, hrest.trans hkeep⟩
      rw [foldlM_cons, hnext]
      exact hlatest
  exact hfold quotes [] hdistinct

instance sortsBefore_total : Std.Total sortsBefore where
  total a b := by
    unfold sortsBefore
    rcases lt_trichotomy a.instrument.canonicalId b.instrument.canonicalId with h | h | h
    · exact .inl (.inl h)
    · rcases le_total a.provider.value b.provider.value with hle | hle
      · exact .inl (.inr ⟨h, hle⟩)
      · exact .inr (.inr ⟨h.symm, hle⟩)
    · exact .inr (.inl h)

instance sortsBefore_trans : IsTrans Quote sortsBefore where
  trans a b c := by
    unfold sortsBefore
    rintro (hab | ⟨hab, hle⟩) (hbc | ⟨hbc, hle'⟩)
    · exact .inl (hab.trans hbc)
    · exact .inl (hbc ▸ hab)
    · exact .inl (hab.symm ▸ hbc)
    · exact .inr ⟨hab.trans hbc, hle.trans hle'⟩

theorem rowsAmong_degradedRows (now : Instant) (rows : List Quote) :
    rowsAmong observations (degradedRows tools now rows) =
      degradedRows tools now (rowsAmong observations rows) := by
  unfold rowsAmong degradedRows pruneExpiredOptionQuotes
  rw [filter_map, filter_filter, filter_filter]
  congr 1
  apply filter_congr
  intro row _
  exact Bool.and_comm _ _

theorem rowsAmong_stored (rows : List Quote) : rowsAmong observations (rows.map Quote.stored) =
      (rowsAmong observations rows).map Quote.stored := by
  unfold rowsAmong
  rw [filter_map]
  rfl

theorem rowsAmong_insertionSort (rows : List Quote) :
    rowsAmong observations (rows.insertionSort sortsBefore) =
      (rowsAmong observations rows).insertionSort sortsBefore :=
  filter_insertionSort _ _

def keptRows (tools : StoreTools) (batch : Update) (stored : List Quote) : List Quote :=
  (degradedRows tools batch.now stored).filter
    fun quote => !batch.replaceProviders.contains quote.provider

theorem rowsAmong_keptRows (batch : Update) (stored : List Quote) :
    rowsAmong observations (keptRows tools batch stored) =
      (degradedRows tools batch.now (rowsAmong observations stored)).filter
        fun quote => !batch.replaceProviders.contains quote.provider := by
  rw [← rowsAmong_degradedRows]
  exact filter_comm _ _ _

theorem storeRows_of_latest {stored latest : List Quote} {batch : Update}
    (h : latestByProvider tools (keptRows tools batch stored ++ batch.incoming) = .ok latest) :
    storeRows tools stored batch =
      .ok (((degradedRows tools batch.now latest).insertionSort sortsBefore).map Quote.stored) := by
  have hrows : updateRows tools batch (loadRows tools (.update batch) stored) =
      (latestByProvider tools (keptRows tools batch stored ++ batch.incoming)).map
        (agedRows tools batch (loadRows tools (.update batch) stored)) := rfl
  rw [storeRows, hrows, h]
  rfl

/-- **One update**: of instruments with one row for each provider it writes the rows that it starts
from and those that it brings, aged and sorted. -/
theorem storeRows_among (tools : StoreTools) (stored : List Quote) (batch : Update)
    (hdistinct : (rowsAmong observations (keptRows tools batch stored ++ batch.incoming)).Pairwise
      fun a b => ¬SameKey a b) : ∃ next, storeRows tools stored batch = .ok next ∧
      rowsAmong observations next = ((degradedRows tools batch.now (rowsAmong observations
        (keptRows tools batch stored ++ batch.incoming))).insertionSort sortsBefore).map
          Quote.stored := by
  obtain ⟨latest, hlatest, hamong⟩ := latestByProvider_among tools hdistinct
  refine ⟨_, storeRows_of_latest hlatest, ?_⟩
  rw [rowsAmong_stored, rowsAmong_insertionSort, rowsAmong_degradedRows, hamong]

end Among

/-! ## Runs -/

section Runs

variable {settings : StoreSettings} {observations stored : List Quote} {batch : Update}
  {first last now later : Instant}

/-- The rows of the observations as the file keeps them. -/
def filedRows (tools : StoreTools) (now : Instant) (observations : List Quote) : List Quote :=
  (degradedRows tools now (observations.insertionSort sortsBefore)).map Quote.stored

theorem degradedRows_insertionSort (tools : StoreTools) (now : Instant) (quotes : List Quote) :
    (degradedRows tools now quotes).insertionSort sortsBefore =
      degradedRows tools now (quotes.insertionSort sortsBefore) := by
  unfold degradedRows pruneExpiredOptionQuotes
  rw [filter_insertionSort, map_insertionSort sortsBefore sortsBefore]
  intro a _ b _
  exact Iff.rfl

theorem degradedRows_stored (quotes : List Quote) :
    degradedRows settings.tools now (quotes.map Quote.stored) =
      (degradedRows settings.tools now quotes).map Quote.stored := by
  unfold degradedRows pruneExpiredOptionQuotes
  rw [filter_map, map_map, map_map]
  rfl

/-- **Rows that were aged before are aged as if they had not been.** -/
theorem degradedRows_again {quotes : List Quote} (hle : now ≤ later)
    (hskew : ∀ quote ∈ quotes, ¬IsOvertaken settings.reader now later quote) :
    degradedRows settings.tools later (degradedRows settings.tools now quotes) =
      degradedRows settings.tools later quotes := by
  unfold degradedRows pruneExpiredOptionQuotes
  rw [filter_map, map_map, filter_filter]
  have hfilter : (quotes.filter fun quote =>
      ((fun quote => !isExpired settings.tools later quote) ∘
        degradeStaleQuote settings.tools now) quote && !isExpired settings.tools now quote) =
      quotes.filter fun quote => !isExpired settings.tools later quote := by
    apply filter_congr
    intro quote _
    show (!isExpired settings.tools later quote && !isExpired settings.tools now quote) = _
    cases hexpired : isExpired settings.tools now quote with
    | false => rw [Bool.not_false, Bool.and_true]
    | true => rw [isExpired_later hle hexpired]; rfl
  rw [hfilter]
  apply map_congr_left
  intro quote hquote
  exact degrade_again hle (hskew quote (mem_of_mem_filter hquote))

theorem filedRows_again (hle : now ≤ later)
    (hskew : ∀ quote ∈ observations, ¬IsOvertaken settings.reader now later quote) :
    (degradedRows settings.tools later (filedRows settings.tools now observations)).map
      Quote.stored = filedRows settings.tools later observations := by
  unfold filedRows
  rw [degradedRows_stored, degradedRows_again hle, map_map]
  · apply map_congr_left
    intro quote _
    exact stored_stored quote
  · intro quote hquote
    exact hskew quote ((mem_insertionSort _).mp hquote)

theorem key_of_filed {tools : StoreTools} {row : Quote}
    (h : row ∈ filedRows tools now observations) : ∃ quote ∈ observations, SameKey quote row := by
  obtain ⟨aged, haged, rfl⟩ := mem_map.mp h
  obtain ⟨quote, hquote, rfl⟩ := mem_map.mp haged
  exact ⟨quote, (mem_insertionSort _).mp (mem_of_mem_filter hquote), rfl, rfl⟩

theorem degradedRows_pairwise {tools : StoreTools} {r : Quote → Quote → Prop} {quotes : List Quote}
    (hr : ∀ a b, r a b → r (degradeStaleQuote tools now a) (degradeStaleQuote tools now b))
    (h : quotes.Pairwise r) : (degradedRows tools now quotes).Pairwise r := by
  unfold degradedRows
  rw [pairwise_map]
  exact (h.filter _).imp fun {a b} => hr a b

theorem filedRows_distinct {tools : StoreTools}
    (h : observations.Pairwise fun a b => ¬SameKey a b) :
    (filedRows tools now observations).Pairwise fun a b => ¬SameKey a b := by
  unfold filedRows
  rw [pairwise_map]
  refine degradedRows_pairwise (fun a b hne => hne) ?_
  exact ((perm_insertionSort _ _).pairwise_iff fun {a b} hne heq => hne heq.symm).mpr h

theorem filedRows_sorted {tools : StoreTools} :
    (filedRows tools now observations).Pairwise sortsBefore := by
  unfold filedRows
  rw [pairwise_map]
  exact degradedRows_pairwise (fun a b hle => hle) (pairwise_insertionSort _ _)

/-- **The first update** files the observations. -/
theorem first_update (settings : StoreSettings) (first : Instant) (replaced : List Provider)
    (hdistinct : observations.Pairwise fun a b => ¬SameKey a b)
    (hfresh : ∀ row ∈ stored, isAmong observations row.instrument.canonicalId = false) :
    ∃ next, storeRows settings.tools stored
        { incoming := observations, now := first, replaceProviders := replaced } = .ok next ∧
      rowsAmong observations next = filedRows settings.tools first observations := by
  have hnone : rowsAmong observations stored = [] := by
    unfold rowsAmong
    rw [filter_eq_nil_iff]
    intro row hrow
    rw [hfresh row hrow]
    decide
  have hrows : rowsAmong observations (keptRows settings.tools
      { incoming := observations, now := first, replaceProviders := replaced } stored ++
        observations) = observations := by
    rw [rowsAmong_append, rowsAmong_keptRows, hnone, rowsAmong_self]
    rfl
  obtain ⟨next, hnext, hamong⟩ := storeRows_among settings.tools stored
    { incoming := observations, now := first, replaceProviders := replaced }
    (hrows.symm ▸ hdistinct)
  refine ⟨next, hnext, ?_⟩
  rw [hamong, hrows, degradedRows_insertionSort]
  rfl

/-- **A later update** that leaves the observations alone ages their rows. -/
theorem later_update (hdistinct : observations.Pairwise fun a b => ¬SameKey a b)
    (hstored : rowsAmong observations stored = filedRows settings.tools now observations)
    (hle : now ≤ batch.now) (halone : LeavesAlone observations batch)
    (hskew : ∀ quote ∈ observations, ¬IsOvertaken settings.reader now batch.now quote) :
    ∃ next, storeRows settings.tools stored batch = .ok next ∧
      rowsAmong observations next = filedRows settings.tools batch.now observations := by
  have hincoming : rowsAmong observations batch.incoming = [] := by
    unfold rowsAmong
    rw [filter_eq_nil_iff]
    intro row hrow
    rw [halone.1 row hrow]
    decide
  have hkept : (degradedRows settings.tools batch.now
      (filedRows settings.tools now observations)).filter
        (fun quote => !batch.replaceProviders.contains quote.provider) =
      degradedRows settings.tools batch.now (filedRows settings.tools now observations) := by
    rw [filter_eq_self]
    intro row hrow
    obtain ⟨filed, hfiled, rfl⟩ := mem_map.mp hrow
    obtain ⟨quote, hquote, hkey⟩ := key_of_filed (mem_of_mem_filter hfiled)
    have hnot : (degradeStaleQuote settings.tools batch.now filed).provider ∉
        batch.replaceProviders := by
      show filed.provider ∉ batch.replaceProviders
      rw [← hkey.2]
      exact halone.2 quote hquote
    simpa using hnot
  have hrows : rowsAmong observations
      (keptRows settings.tools batch stored ++ batch.incoming) =
        degradedRows settings.tools batch.now (filedRows settings.tools now observations) := by
    rw [rowsAmong_append, rowsAmong_keptRows, hstored, hkept, hincoming, append_nil]
  have hapart : (degradedRows settings.tools batch.now
      (filedRows settings.tools now observations)).Pairwise fun a b => ¬SameKey a b :=
    degradedRows_pairwise (fun a b hne => hne) (filedRows_distinct hdistinct)
  obtain ⟨next, hnext, hamong⟩ := storeRows_among settings.tools stored batch (hrows.symm ▸ hapart)
  refine ⟨next, hnext, ?_⟩
  rw [hamong, hrows, degradedRows_again (le_refl _) fun quote _ => not_isOvertaken_self,
    List.Pairwise.insertionSort_eq, filedRows_again hle hskew]
  exact degradedRows_pairwise (fun a b hle => hle) filedRows_sorted

/-- **Any number of updates** that leave the observations alone age their rows. -/
theorem later_updates (hdistinct : observations.Pairwise fun a b => ¬SameKey a b)
    (hskew : ∀ quote ∈ observations, ¬IsOvertaken settings.reader first last quote) :
    ∀ (updates : List Update) (stored : List Quote) (now : Instant), first ≤ now →
      rowsAmong observations stored = filedRows settings.tools now observations →
      (∀ batch ∈ updates, LeavesAlone observations batch) →
      (now :: (updates.map Update.now ++ [last])).Pairwise (· ≤ ·) →
      ∃ rows written, storeAll settings.tools stored updates = .ok rows ∧ first ≤ written ∧
        written ≤ last ∧ rowsAmong observations rows = filedRows settings.tools written observations
  | [], stored, now, hfirst, hstored, _, htimes =>
    ⟨stored, now, rfl, hfirst,
      (pairwise_cons.mp htimes).1 last (mem_singleton_self last), hstored⟩
  | batch :: updates, stored, now, hfirst, hstored, halone, htimes => by
      obtain ⟨hbefore, hrest⟩ := pairwise_cons.mp htimes
      have hle : now ≤ batch.now := hbefore _ mem_cons_self
      have hlast : batch.now ≤ last := (pairwise_cons.mp hrest).1 last
        (mem_append_right _ (mem_singleton_self last))
      obtain ⟨next, hnext, hamong⟩ := later_update hdistinct hstored hle
        (halone batch mem_cons_self)
        fun quote hquote hovertaken => hskew quote hquote (hovertaken.widen hfirst hlast)
      obtain ⟨rows, written, hrows, hwritten⟩ := later_updates hdistinct hskew updates next
        batch.now (hfirst.trans hle) hamong
        (fun other hother => halone other (mem_cons_of_mem _ hother)) hrest
      refine ⟨rows, written, ?_, hwritten⟩
      unfold storeAll at hrows ⊢
      rw [foldlM_cons, hnext]
      exact hrows

/-- **Loading** rows that were filed gives the observations aged at the time of the load. -/
theorem load_among {written : Instant} {rows : List Quote} (hle : written ≤ last)
    (hrows : rowsAmong observations rows = filedRows settings.tools written observations)
    (hskew : ∀ quote ∈ observations, ¬IsOvertaken settings.reader written last quote) :
    rowsAmong observations (loadRows settings.tools (.load last) rows).quotes =
      filedRows settings.tools last observations := by
  have hload : (loadRows settings.tools (.load last) rows).quotes =
      degradedRows settings.tools last rows := rfl
  rw [hload, rowsAmong_degradedRows, hrows]
  unfold filedRows
  rw [degradedRows_stored, degradedRows_again hle]
  intro quote hquote
  exact hskew quote ((mem_insertionSort _).mp hquote)

theorem filed_of_observation {quote : Quote} (hquote : quote ∈ observations)
    (hexpired : isExpired settings.tools last quote = false) :
    (degradeStaleQuote settings.tools last quote).stored ∈
      filedRows settings.tools last observations := by
  apply mem_map_of_mem
  apply mem_map_of_mem
  refine mem_filter.mpr ⟨(mem_insertionSort _).mpr hquote, ?_⟩
  rw [hexpired]
  rfl

theorem eq_of_distinct {rows : List Quote} {a b : Quote}
    (h : rows.Pairwise fun a b => ¬SameKey a b) (ha : a ∈ rows) (hb : b ∈ rows)
    (hkey : SameKey a b) : a = b := by
  have hsymm : Std.Symm fun a b : Quote => ¬SameKey a b := ⟨fun _ _ hnot heq => hnot heq.symm⟩
  by_contra hne
  exact h.forall ha hb hne hkey

theorem ranked_degraded {tools : StoreTools} {policy : SelectionPolicy} {quotes : List Quote}
    (h : Ranked policy quotes) (hdistinct : quotes.Pairwise fun a b => ¬SameKey a b) :
    Ranked policy (degradedRows tools now quotes) where
  configured row hrow := by
    obtain ⟨quote, hquote, rfl⟩ := mem_map.mp hrow
    exact h.configured quote (mem_of_mem_filter hquote)
  distinct a ha b hb hkey :=
    eq_of_distinct (degradedRows_pairwise (fun a b hne => hne) hdistinct) ha hb hkey
  spxw a ha b hb hid := by
    obtain ⟨quote, hquote, rfl⟩ := mem_map.mp ha
    obtain ⟨other, hother, rfl⟩ := mem_map.mp hb
    exact h.spxw quote (mem_of_mem_filter hquote) other (mem_of_mem_filter hother) hid

end Runs

/-- **Ageing commutes with storing.** Observations of instruments that the file did not hold are
stored; updates that leave them alone follow; then the file is loaded. The loaded rows of these
instruments are the observations aged once, at the time of the load, and so are the best quotes,
unless time has caught up with a clock that was too far ahead when the observations were stored. -/
theorem ageing_commutes_with_storing (settings : StoreSettings) (policy : SelectionPolicy)
    (file observations : List Quote) (replaced : List Provider) (updates : List Update)
    (first last : Instant)
    (hdistinct : observations.Pairwise fun a b => ¬SameKey a b)
    (hfresh : ∀ row ∈ file, isAmong observations row.instrument.canonicalId = false)
    (halone : ∀ batch ∈ updates, LeavesAlone observations batch)
    (htimes : (first :: (updates.map Update.now ++ [last])).Pairwise (· ≤ ·))
    (hskew : ∀ quote ∈ observations, ¬IsOvertaken settings.reader first last quote) :
    ∃ rows, storeAll settings.tools file
        ({ incoming := observations, now := first, replaceProviders := replaced } :: updates) =
          .ok rows ∧
      rowsAmong observations (loadRows settings.tools (.load last) rows).quotes =
        (degradedRows settings.tools last (observations.insertionSort sortsBefore)).map
          Quote.stored ∧
      (∀ quote ∈ observations, isExpired settings.tools last quote = false →
        ∃ row ∈ (loadRows settings.tools (.load last) rows).quotes, SameKey quote row ∧
          row.quality = degradedQuality settings.reader settings.rules last quote ∧
          ∀ other ∈ (loadRows settings.tools (.load last) rows).quotes, SameKey quote other →
            other = row) ∧
      rowsAmong observations
          (selectBestQuotes policy last (loadRows settings.tools (.load last) rows).quotes) =
        (selectBestQuotes policy last
          (degradedRows settings.tools last (observations.insertionSort sortsBefore))).map
            Quote.stored ∧
      ∀ order : List Quote, order.Perm observations → Ranked policy observations →
        rowsAmong observations
            (selectBestQuotes policy last (loadRows settings.tools (.load last) rows).quotes) =
          (selectBestQuotes policy last (degradedRows settings.tools last order)).map
            Quote.stored := by
  obtain ⟨next, hnext, hamong⟩ := first_update settings first replaced hdistinct hfresh
  obtain ⟨rows, written, hrows, hfirst, hlast, hfiled⟩ := later_updates hdistinct hskew updates next
    first (le_refl _) hamong halone htimes
  have hload := load_among hlast hfiled
    fun quote hquote hovertaken => hskew quote hquote (hovertaken.widen hfirst (le_refl _))
  have hselected : rowsAmong observations
      (selectBestQuotes policy last (loadRows settings.tools (.load last) rows).quotes) =
        (selectBestQuotes policy last
          (degradedRows settings.tools last (observations.insertionSort sortsBefore))).map
            Quote.stored := by
    rw [← selectBestQuotes_stored]
    show _ = selectBestQuotes policy last (filedRows settings.tools last observations)
    rw [← hload]
    exact (selectBestQuotes_filter (isAmong observations)).symm
  refine ⟨rows, ?_, hload, ?_, hselected, ?_⟩
  · unfold storeAll at hrows ⊢
    rw [foldlM_cons, hnext]
    exact hrows
  · intro quote hquote hexpired
    have hfiled := filed_of_observation hquote hexpired
    have hloaded : (degradeStaleQuote settings.tools last quote).stored ∈
        rowsAmong observations (loadRows settings.tools (.load last) rows).quotes := by
      rw [hload]
      exact hfiled
    refine ⟨_, mem_of_mem_filter hloaded, ⟨rfl, rfl⟩, rfl, ?_⟩
    intro other hother hkey
    have hother' : other ∈ filedRows settings.tools last observations := by
      rw [← hload]
      refine mem_filter.mpr ⟨hother, isAmong_iff.mpr ⟨quote, hquote, hkey.1⟩⟩
    exact eq_of_distinct (filedRows_distinct hdistinct) hother' hfiled hkey.symm
  · intro order hperm hranked
    rw [hselected]
    congr 1
    have hsort := (perm_insertionSort sortsBefore observations).trans hperm.symm
    apply selectBestQuotes_perm ((hsort.filter _).map _)
    apply ranked_degraded
    · exact hranked.subset fun quote hquote => (mem_insertionSort _).mp hquote
    · exact ((perm_insertionSort _ _).pairwise_iff
        fun {a b} hne heq => hne heq.symm).mpr hdistinct

/-! ## A clock that time catches up with -/

/-- The rules of the default settings, in a winter. -/
def defaultSettings : StoreSettings where
  reader := isoReader
  rules := {
    staleAfterSeconds := 15
    slowStaleAfterSeconds := some 90
    slowLabels := ["index:VIX".toList]
    rotationStaleAfterSeconds := some 90 }
  zone := MarketCalendar.winterClock
  isdigit := Char.isDigit
  int text := if text.all Char.isDigit then some (Calendar.digitsValue text) else none

def defaultPolicy : SelectionPolicy where
  zone := MarketCalendar.winterClock
  isSpxw _ := false
  configured := [.schwab, .ibkr]

def indexQuote (lastUpdateAt : Instant) : Quote where
  quality := .live
  last := some 7500
  lastUpdateAt := some lastUpdateAt
  instrument := { canonicalId := "index:SPX".toList, isOption := false }
  provider := .ibkr
  receivedAt := 0
  marketDataType := some (.int 1)

/-- A delayed quote of the index, from another provider. -/
def delayedQuote : Quote where
  quality := .delayed
  last := some 7490
  lastUpdateAt := some 0
  instrument := { canonicalId := "index:SPX".toList, isOption := false }
  provider := .schwab
  receivedAt := 0

def vixUpdate : Update where
  incoming := [{
    quality := .live
    last := some 20
    instrument := { canonicalId := "index:VIX".toList, isOption := false }
    provider := .schwab
    receivedAt := 5000000 }]
  now := 5000000

theorem index_quote_stays_live : ∃ rows, storeAll defaultSettings.tools []
      [{ incoming := [indexQuote 0], now := 0, replaceProviders := [] }, vixUpdate] = .ok rows ∧
    ∃ row ∈ (loadRows defaultSettings.tools (.load 10000000) rows).quotes,
      SameKey (indexQuote 0) row ∧ row.quality = .live := by
  have hclock : transportTime isoReader (isIbkrRotatedOption (indexQuote 0)) (indexQuote 0) =
      some 0 := by decide
  obtain ⟨rows, hrows, -, hquality, -⟩ := ageing_commutes_with_storing defaultSettings defaultPolicy
    [] [indexQuote 0] [] [vixUpdate] 0 10000000 (pairwise_singleton _ _)
    (fun row hrow => by cases hrow)
    (fun batch hbatch => by
      obtain rfl := mem_singleton.mp hbatch
      constructor
      · decide +kernel
      · intro quote _ hreplaced
        cases hreplaced)
    (by decide)
    (fun quote hquote hovertaken => by
      obtain rfl := mem_singleton.mp hquote
      obtain ⟨time, htime, hlt⟩ := hovertaken.2.2.1
      obtain rfl := Option.some.inj (hclock.symm.trans htime)
      exact absurd hlt (by decide +kernel))
  obtain ⟨row, hrow, hkey, hlive, -⟩ := hquality (indexQuote 0) (mem_singleton_self _)
    (by decide)
  refine ⟨rows, hrows, row, hrow, hkey, hlive.trans ?_⟩
  decide +kernel

/-- What the file says at a time of observations that were stored at the epoch. -/
def loadedAt (last : Instant) (observations : List Quote) : Except MergeError (List Quote) :=
  (storeAll defaultSettings.tools [] [{ incoming := observations, now := 0 }]).map
    fun rows => (loadRows defaultSettings.tools (.load last) rows).quotes

def qualitiesOf (quotes : List Quote) : List (Provider × MarketDataQuality) :=
  quotes.map fun quote => (quote.provider, quote.quality)

/-- **Ten seconds ahead when it was stored, and in no way stale twenty seconds later**: the row has
lost its quality and the selection to another provider, and the observation has not. -/
theorem overtaken_quality_lost :
    (loadedAt 20000000 [indexQuote 10000000, delayedQuote]).toOption.map (fun rows =>
        (qualitiesOf rows, qualitiesOf (selectBestQuotes defaultPolicy 20000000 rows))) =
      some ([(.ibkr, .unknown), (.schwab, .delayed)], [(.schwab, .delayed)]) ∧
    qualitiesOf (degradedRows defaultSettings.tools 20000000
        [indexQuote 10000000, delayedQuote]) = [(.ibkr, .live), (.schwab, .delayed)] ∧
    qualitiesOf (selectBestQuotes defaultPolicy 20000000 (degradedRows defaultSettings.tools
        20000000 [indexQuote 10000000, delayedQuote])) = [(.ibkr, .live)] := by
  decide +kernel

end SpxSpark.Storage
