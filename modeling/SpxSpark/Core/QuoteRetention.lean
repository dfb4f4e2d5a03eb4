import SpxSpark.Core.QuoteBook

/-!
# QuoteRetention — what a book keeps, in age and in number

The entry limits are enforced last, so they hold after every call. The age window is enforced
before the batch is stored: a batch older than the window is stored all the same, whatever the
other providers have delivered in the meantime.
-/

namespace SpxSpark.Core

open Std Domain Lib

variable {D : Type}

namespace QuoteBook

/-- Everything stored is within the window of the watermark, and within the entry limits. -/
structure Retained (book : QuoteBook D) : Prop where
  quotes : ∀ (k : QuoteKey) (stored : StoredQuote) (w : DateTime), book.quotes[k]? = some stored →
    book.watermark = some w → w - book.retention ≤ stored.acceptedAt
  seenBatches : ∀ (id : Token) (seen : SeenBatch D) (w : DateTime),
    book.seenBatches[id]? = some seen → book.watermark = some w →
      w - book.retention ≤ seen.acceptedAt
  quotes_size : book.quotes.size ≤ book.maxQuoteEntries
  seenBatches_size : book.seenBatches.size ≤ book.maxBatchIdentityEntries

/-- A valid batch that neither the remembered identities nor the cursor hold back arrives within
the window. -/
def InTime (book : QuoteBook D) (batch : QuoteBatchV1) : Prop :=
  batch.validate = .ok () → ¬ book.Remembers batch → ¬ book.Reached batch →
    book.cutoff batch ≤ batch.receivedAt

theorem fresh_retained {retention : TimeDelta} {maxQuotes maxBatches : Nat}
    {hr : 0 < retention} {hq : 0 < maxQuotes} {hb : 0 < maxBatches} :
    (fresh retention maxQuotes maxBatches hr hq hb : QuoteBook D).Retained where
  quotes := by
    intro k stored w h _
    simp [fresh] at h
  seenBatches := by
    intro id seen w h _
    simp [fresh] at h
  quotes_size := Nat.zero_le _
  seenBatches_size := Nat.zero_le _

variable [BookHash D] {book : QuoteBook D} {batch : QuoteBatchV1}

theorem accept_retained (htime : book.cutoff batch ≤ batch.receivedAt) :
    (book.accept batch).Retained where
  quotes := by
    intro k stored w hk hw
    rw [accept_watermark, Option.some.injEq] at hw
    rw [accept_retention, ← hw]
    rcases accept_quote hk with ⟨hnew, -⟩ | ⟨-, hage, -⟩
    · -- A new quote is as old as its batch.
      obtain ⟨-, quote, -, rfl⟩ := mem_storedQuotes.mp hnew
      exact htime
    · exact hage
  seenBatches := by
    intro id seen w hid hw
    rw [accept_watermark, Option.some.injEq] at hw
    rw [accept_retention, ← hw]
    rcases accept_seen hid with ⟨-, hseen⟩ | ⟨-, hage⟩
    · rw [hseen]
      exact htime
    · exact hage
  quotes_size := accept_quotes_size
  seenBatches_size := accept_seen_size

variable [DecidableEq D]

theorem apply_retained (h : book.Retained) (htime : book.InTime batch) :
    (book.apply batch).2.Retained := by
  by_cases hjudge : book.judge batch = .ok .applied
  · obtain ⟨hvalid, -, hnew, hahead⟩ := judge_applied.mp hjudge
    rw [apply_applied hjudge]
    exact accept_retained (htime hvalid hnew hahead)
  · rw [apply_other hjudge]
    exact h

/-- **Retention.** In a run whose applied batches are all in time, every stored quote and every
remembered identity stays within the window of the watermark and within the entry limits. -/
theorem quote_retention {retentionSeconds : UInt32} {maxQuotes maxBatches : Nat}
    {book₀ : QuoteBook D} {evs : List (QuoteBatchV1 × Except QuoteBookError ApplyBatch)}
    (hnew : new retentionSeconds maxQuotes maxBatches = .ok book₀)
    (run : Run apply InTime book₀ evs book) : book.Retained := by
  obtain ⟨retention, hr, hq, hb, rfl⟩ := new_ok hnew
  exact run.invariant fresh_retained fun _ _ hs htime => apply_retained hs htime

/-! ## A batch that comes late -/

/-- Two batches a minute apart. -/
def steadyFeed : List QuoteBatchV1 :=
  [indexBatch schwabBatch schwabQuote .schwab 1 1 (TimeDelta.seconds 1000),
    indexBatch ibkrBatch ibkrQuote .ibkr 1 1 (TimeDelta.seconds 1060)]

/-- The other provider delivers a batch received six minutes before the watermark. -/
def lateFeed : List QuoteBatchV1 :=
  [indexBatch schwabBatch schwabQuote .schwab 1 1 (TimeDelta.seconds 1000),
    indexBatch ibkrBatch ibkrQuote .ibkr 1 1 (TimeDelta.seconds 640)]

theorem quote_retention_steady :
    (play apply (default : QuoteBook BookDocument) steadyFeed).2.quotes.size = 2 ∧
      (play apply (default : QuoteBook BookDocument) steadyFeed).2.Retained := by
  have htwo : (play apply (default : QuoteBook BookDocument) steadyFeed).2.quotes.size = 2 ∧
      Allowed apply (fun book batch => book.cutoff batch ≤ batch.receivedAt)
        (default : QuoteBook BookDocument) steadyFeed := by
    decide +kernel
  refine ⟨htwo.1, quote_retention new_default ((Run.play htwo.2).mono ?_)⟩
  intro book batch htime _ _ _
  exact htime

/-- Every call succeeds, and a quote older than the window stays behind. -/
theorem quote_retention_late :
    ¬ ∀ evs (book : QuoteBook BookDocument), Run apply anyStep default evs book →
      (∀ ev ∈ evs, ∃ answer, ev.2 = .ok answer) → book.Retained := by
  intro h
  have hrun : Run apply anyStep (default : QuoteBook BookDocument) _ _ :=
    Run.play (allowed_anyStep lateFeed default)
  -- The watermark stands at 1000 s, the second quote was accepted at 640 s.
  have hplayed : (play apply (default : QuoteBook BookDocument) lateFeed).1.map (·.2) =
      [.ok .applied, .ok .applied] ∧
      (play apply (default : QuoteBook BookDocument) lateFeed).2.watermark =
        some (TimeDelta.seconds 1000) ∧
      (play apply (default : QuoteBook BookDocument) lateFeed).2.retention =
        TimeDelta.seconds 300 ∧
      ((play apply (default : QuoteBook BookDocument) lateFeed).2.quotes[
        (⟨.ibkr, .gth, spx.value⟩ : QuoteKey)]?).map (·.acceptedAt) =
        some (TimeDelta.seconds 640) := by
    decide +kernel
  obtain ⟨hanswers, hwatermark, hretention, hlate⟩ := hplayed
  have hok : ∀ ev ∈ (play apply (default : QuoteBook BookDocument) lateFeed).1,
      ∃ answer, ev.2 = .ok answer := by
    intro ev hev
    have hmem : ev.2 ∈ [Except.ok .applied, .ok .applied] := by
      rw [← hanswers]
      exact List.mem_map_of_mem hev
    rcases List.mem_pair.mp hmem with h | h
    · exact ⟨_, h⟩
    · exact ⟨_, h⟩
  obtain ⟨stored, hstored, hat⟩ := Option.map_eq_some_iff.mp hlate
  have hwithin := (h _ _ hrun hok).quotes _ _ _ hstored hwatermark
  rw [hretention, hat] at hwithin
  exact absurd hwithin (by decide)

end QuoteBook

end SpxSpark.Core
