import SpxSpark.Core.Snapshot
import Mathlib.Data.List.Induction

/-!
# QuoteReplay — a book is the replay of the batches it accepted

The specification knows nothing of maps: it reads the log of accepted batches. For a provider it
takes the batches since its last reset, and for a key the last quote among the live ones of these.
-/

namespace SpxSpark.Core

open Std Domain Lib List

/-! ## The log -/

/-- The batches of a run that were applied, oldest first. -/
def accepted (evs : List (QuoteBatchV1 × Except QuoteBookError ApplyBatch)) : List QuoteBatchV1 :=
  (evs.filter fun ev => ev.2 = .ok .applied).map (·.1)

/-- A batch starts a provider afresh: a new generation, a provider that is not live, or a batch
that replaces the provider's snapshot. -/
def startsAfresh (window : List QuoteBatchV1) (batch : QuoteBatchV1) : Bool :=
  (window.getLast?).any (fun last =>
      last.providerState.connectionGeneration < batch.providerState.connectionGeneration) ||
    !batch.providerState.isLive || batch.mode == .replaceProviderSnapshot

def extendWindow (p : Provider) (window : List QuoteBatchV1) (batch : QuoteBatchV1) :
    List QuoteBatchV1 :=
  if batch.provider = p then
    if startsAfresh window batch then [batch] else window ++ [batch]
  else window

/-- The batches of a provider since its last reset, the resetting batch included. -/
def sinceReset (p : Provider) (log : List QuoteBatchV1) : List QuoteBatchV1 :=
  log.foldl (extendWindow p) []

/-- The quotes of live batches filed under a key of their provider, oldest first. -/
def quotesAt (k : QuoteKey) (batches : List QuoteBatchV1) : List QuoteV1 :=
  ((batches.filter (·.providerState.isLive)).flatMap (·.quotes)).filter fun q =>
    q.marketSession = k.marketSession && q.identity.value = k.identity

def lastQuote (k : QuoteKey) (log : List QuoteBatchV1) : Option QuoteV1 :=
  (quotesAt k (sinceReset k.provider log)).getLast?

variable {log : List QuoteBatchV1}

theorem sinceReset_append {p : Provider} {batch : QuoteBatchV1} :
    sinceReset p (log ++ [batch]) = extendWindow p (sinceReset p log) batch := by
  rw [sinceReset, foldl_append]
  rfl

variable {k : QuoteKey}

theorem quotesAt_append {xs ys : List QuoteBatchV1} :
    quotesAt k (xs ++ ys) = quotesAt k xs ++ quotesAt k ys := by
  simp [quotesAt]

theorem mem_quotesAt {batches : List QuoteBatchV1} {q : QuoteV1} (h : q ∈ quotesAt k batches) :
    ∃ batch ∈ batches, batch.providerState.isLive = true ∧ q ∈ batch.quotes := by
  obtain ⟨hmem, -⟩ := mem_filter.mp h
  obtain ⟨batch, hbatch, hq⟩ := mem_flatMap.mp hmem
  obtain ⟨hin, hlive⟩ := mem_filter.mp hbatch
  exact ⟨batch, hin, hlive, hq⟩

theorem lastQuote_append {batch : QuoteBatchV1} :
    lastQuote k (log ++ [batch]) =
      if batch.provider = k.provider then
        ((quotesAt k [batch]).getLast?).or
          (if startsAfresh (sinceReset k.provider log) batch then none else lastQuote k log)
      else lastQuote k log := by
  rw [lastQuote, sinceReset_append, extendWindow]
  split
  · split
    · rw [Option.or_none]
    · rw [quotesAt_append, getLast?_append]
      rfl
  · rfl

theorem getLast?_sinceReset {p : Provider} {batch : QuoteBatchV1} :
    (sinceReset p (log ++ [batch])).getLast? =
      if batch.provider = p then some batch else (sinceReset p log).getLast? := by
  rw [sinceReset_append, extendWindow]
  split
  · split
    · rfl
    · rw [getLast?_concat]
  · rfl

theorem getLast?_provider {p : Provider} :
    (sinceReset p log).getLast? = (log.filter (·.provider = p)).getLast? := by
  induction log using List.reverseRecOn with
  | nil => rfl
  | append_singleton log last ih =>
    rw [getLast?_sinceReset, filter_append]
    split
    · rename_i hp
      rw [filter_cons_of_pos (by simpa using hp), filter_nil, getLast?_concat]
    · rename_i hp
      rw [filter_cons_of_neg (by simpa using hp), filter_nil, append_nil, ih]

theorem mem_sinceReset : ∀ {log : List QuoteBatchV1} {p : Provider} {batch : QuoteBatchV1},
    batch ∈ sinceReset p log → batch ∈ log ∧ batch.provider = p := by
  intro log
  induction log using List.reverseRecOn with
  | nil =>
    intro p batch h
    cases h
  | append_singleton log last ih =>
    intro p batch h
    rw [sinceReset_append, extendWindow] at h
    split at h
    · rename_i hp
      split at h
      · rw [mem_singleton.mp h]
        exact ⟨mem_append_right _ (mem_singleton_self _), hp⟩
      · rcases mem_append.mp h with h | h
        · exact ⟨mem_append_left _ (ih h).1, (ih h).2⟩
        · rw [mem_singleton.mp h]
          exact ⟨mem_append_right _ (mem_singleton_self _), hp⟩
    · exact ⟨mem_append_left _ (ih h).1, (ih h).2⟩

/-! ## Runs without eviction -/

namespace QuoteBook

variable {D : Type} [BookHash D] [DecidableEq D]

/-- If the batch is applied, nothing stored is too old for it and neither limit is exceeded. -/
def EvictsNothing (book : QuoteBook D) (batch : QuoteBatchV1) : Prop :=
  book.judge batch = .ok .applied →
    (∀ stored ∈ valuesOf book.quotes, book.cutoff batch ≤ stored.acceptedAt) ∧
    (∀ seen ∈ valuesOf book.seenBatches, book.cutoff batch ≤ seen.acceptedAt) ∧
    (book.store batch (book.resets batch)).quotes.size ≤ book.maxQuoteEntries ∧
    (book.store batch (book.resets batch)).seenBatches.size ≤ book.maxBatchIdentityEntries

/-- The call returns, and evicts nothing. -/
def Undisturbed (book : QuoteBook D) (batch : QuoteBatchV1) : Prop :=
  book.judge batch ≠ .error .timeOverflow ∧ book.EvictsNothing batch

instance {book : QuoteBook D} {batch : QuoteBatchV1} : Decidable (book.Undisturbed batch) :=
  inferInstanceAs (Decidable (_ ∧ (_ → _)))

variable {book : QuoteBook D} {batch : QuoteBatchV1}

theorem accept_undisturbed (hjudge : book.judge batch = .ok .applied)
    (hkeep : book.EvictsNothing batch) :
    (book.accept batch).quotes = (book.store batch (book.resets batch)).quotes ∧
      (book.accept batch).seenBatches = (book.store batch (book.resets batch)).seenBatches := by
  obtain ⟨hquotes, hseen, hqsize, hbsize⟩ := hkeep hjudge
  have hqp : prune StoredQuote.acceptedAt (book.cutoff batch) book.quotes = book.quotes :=
    prune_eq_self fun k stored hk => hquotes stored (mem_valuesOf.mpr ⟨k, hk⟩)
  have hbp : prune SeenBatch.acceptedAt (book.cutoff batch) book.seenBatches =
      book.seenBatches :=
    prune_eq_self fun id seen hid => hseen seen (mem_valuesOf.mpr ⟨id, hid⟩)
  have hquotes : ((book.advanceWatermarkAndPrune batch.receivedAt).store batch
      (book.resets batch)).quotes = (book.store batch (book.resets batch)).quotes := by
    change putAll (batchKey batch) (storedQuotes batch)
      (if book.resets batch then
        clearProvider batch.provider (prune StoredQuote.acceptedAt (book.cutoff batch) book.quotes)
      else prune StoredQuote.acceptedAt (book.cutoff batch) book.quotes) = _
    rw [hqp]
    rfl
  have hseen : ((book.advanceWatermarkAndPrune batch.receivedAt).store batch
      (book.resets batch)).seenBatches = (book.store batch (book.resets batch)).seenBatches := by
    change (prune SeenBatch.acceptedAt (book.cutoff batch) book.seenBatches).insert _ _ = _
    rw [hbp]
    rfl
  constructor
  · rw [← hquotes] at hqsize ⊢
    exact evictOldest_eq_self hqsize
  · rw [← hseen] at hbsize ⊢
    exact evictOldest_eq_self hbsize

theorem storedQuotes_at (hp : batch.provider = k.provider) :
    ((storedQuotes batch).filter fun stored => batchKey batch stored = k).getLast?.map (·.quote) =
      (quotesAt k [batch]).getLast? := by
  have hkey : ∀ q : QuoteV1, batchKey batch (storedQuote batch q) = k ↔
      q.marketSession = k.marketSession ∧ q.identity.value = k.identity := by
    intro q
    rw [batchKey, QuoteKey.mk.injEq]
    simp [keyOf, storedQuote, hp]
  unfold storedQuotes quotesAt
  split
  · rename_i hlive
    have hid : (fun stored : StoredQuote => stored.quote) ∘ storedQuote batch = id := rfl
    have hfilter : ((fun stored => decide (batchKey batch stored = k)) ∘ storedQuote batch) =
        fun q => q.marketSession = k.marketSession && q.identity.value = k.identity := by
      funext q
      rw [Function.comp_apply, decide_eq_decide.mpr (hkey q), Bool.decide_and]
    rw [filter_map, ← getLast?_map, map_map, hid, map_id, hfilter]
    simp [hlive]
  · rename_i hlive
    simp [hlive]

/-! ## The book and its log -/

/-- A book reads as its log under every key, and its cursors are the last accepted positions. -/
structure Replays (log : List QuoteBatchV1) (book : QuoteBook D) : Prop where
  quotes : ∀ k : QuoteKey, (book.quotes[k]?).map (·.quote) = lastQuote k log
  cursors : ∀ p : Provider,
    (book.cursors[p]?).map Cursor.position = ((sinceReset p log).getLast?).map positionOf
  sameGeneration : ∀ (p : Provider), ∀ batch ∈ sinceReset p log,
    (book.cursors[p]?).map (·.connectionGeneration) =
      some batch.providerState.connectionGeneration

omit [BookHash D] [DecidableEq D] in
theorem fresh_replays {retention : TimeDelta} {maxQuotes maxBatches : Nat}
    {hr : 0 < retention} {hq : 0 < maxQuotes} {hb : 0 < maxBatches} :
    (fresh retention maxQuotes maxBatches hr hq hb : QuoteBook D).Replays [] where
  quotes := by
    intro k
    simp [fresh, lastQuote, sinceReset, quotesAt]
  cursors := by
    intro p
    simp [fresh, sinceReset]
  sameGeneration := by
    intro p batch h
    cases h

omit [BookHash D] [DecidableEq D] in
theorem resets_startsAfresh (h : book.Replays log) :
    book.resets batch = startsAfresh (sinceReset batch.provider log) batch := by
  have hgen : book.generationAdvanced batch =
      ((sinceReset batch.provider log).getLast?).any fun last =>
        last.providerState.connectionGeneration < batch.providerState.connectionGeneration := by
    have hc := h.cursors batch.provider
    rw [generationAdvanced]
    cases hcursor : book.cursors[batch.provider]? with
    | none =>
      rw [hcursor] at hc
      rw [Option.map_eq_none_iff.mp hc.symm]
      rfl
    | some cursor =>
      rw [hcursor] at hc
      obtain ⟨last, hlast, hpos⟩ := Option.map_eq_some_iff.mp hc.symm
      have hsame : last.providerState.connectionGeneration = cursor.connectionGeneration :=
        congrArg (fun pos => (ofLex pos).1) hpos
      rw [hlast, Option.any_some, Option.any_some, hsame]
  rw [resets, startsAfresh, hgen]

theorem accept_replays (h : book.Replays log) (hjudge : book.judge batch = .ok .applied)
    (hkeep : book.EvictsNothing batch) : (book.accept batch).Replays (log ++ [batch]) := by
  obtain ⟨-, -, -, hahead⟩ := judge_applied.mp hjudge
  refine ⟨?_, ?_, ?_⟩
  · intro k
    rw [(accept_undisturbed hjudge hkeep).1, store_quotes, Option.map_or, lastQuote_append]
    by_cases hp : batch.provider = k.provider
    · rw [if_pos hp, storedQuotes_at hp, resets_startsAfresh h, hp]
      simp only [and_true]
      split
      · rfl
      · rw [h.quotes]
    · -- Another provider's key: the batch neither writes nor clears it.
      have hnone : (storedQuotes batch).filter (fun stored => batchKey batch stored = k) = [] := by
        rw [filter_eq_nil_iff]
        intro stored _ hkey
        exact hp (congrArg QuoteKey.provider (of_decide_eq_true hkey))
      rw [hnone, if_neg hp, if_neg fun hc => hp hc.2.symm]
      exact h.quotes k
  · intro p
    rw [accept_cursor, getLast?_sinceReset]
    split
    · rfl
    · exact h.cursors p
  · intro p last hlast
    rw [accept_cursor]
    rw [sinceReset_append, extendWindow] at hlast
    split at hlast
    · rename_i hp
      rw [if_pos hp]
      split at hlast
      · rw [mem_singleton.mp hlast]
        rfl
      · rename_i hcontinues
        rcases mem_append.mp hlast with hold | hnew
        · -- No reset: the generation is the one the provider had.
          have hkept : book.resets batch ≠ true := by
            rw [resets_startsAfresh h, hp]
            exact hcontinues
          have hgen := h.sameGeneration p last hold
          obtain ⟨cursor, hcursor, hsame⟩ := Option.map_eq_some_iff.mp hgen
          rw [← hp] at hcursor
          rw [← hsame, same_generation hahead hkept hcursor]
          rfl
        · rw [mem_singleton.mp hnew]
          rfl
    · rename_i hp
      rw [if_neg hp]
      exact h.sameGeneration p last hlast

/-! ## Batches that came before -/

/-- The book has an answer to a batch: it is invalid, its position is reached, or its identity is
remembered. -/
def Known (book : QuoteBook D) (batch : QuoteBatchV1) : Prop :=
  batch.validate ≠ .ok () ∨ book.Reached batch ∨
    ∃ seen, book.seenBatches[batch.batchId]? = some seen

omit [DecidableEq D] in
theorem accept_reached_self : (book.accept batch).Reached batch :=
  ⟨cursorOf batch, by rw [accept_cursor, if_pos rfl], le_rfl⟩

omit [DecidableEq D] in
theorem accept_reached {b : QuoteBatchV1} (hahead : ¬ book.Reached batch) (h : book.Reached b) :
    (book.accept batch).Reached b := by
  obtain ⟨cursor, hcursor, hle⟩ := h
  rw [Reached, accept_cursor]
  split
  · rename_i hp
    refine ⟨_, rfl, hle.trans ?_⟩
    rw [← hp] at hcursor
    exact (lt_of_not_ge fun hge => hahead ⟨cursor, hcursor, hge⟩).le
  · exact ⟨cursor, hcursor, hle⟩

theorem accept_known {b : QuoteBatchV1} (hjudge : book.judge batch = .ok .applied)
    (hkeep : book.EvictsNothing batch) (h : book.Known b) : (book.accept batch).Known b := by
  rcases h with hinvalid | hreached | ⟨seen, hseen⟩
  · exact .inl hinvalid
  · exact .inr (.inl (accept_reached (judge_applied.mp hjudge).2.2.2 hreached))
  · refine .inr (.inr ?_)
    rw [(accept_undisturbed hjudge hkeep).2, store_seen]
    split
    · exact ⟨_, rfl⟩
    · exact ⟨seen, hseen⟩

theorem judge_overflow (hvalid : batch.validate = .ok ())
    (hnone : checkedAddSigned (book.nextWatermark batch.receivedAt) (-book.retention) = none) :
    book.judge batch = .error .timeOverflow := by
  simp [judge, hvalid, hnone, Except.mapError, bind, Except.bind]

theorem apply_known (hreturns : book.judge batch ≠ .error .timeOverflow) :
    (book.apply batch).2.Known batch := by
  by_cases hjudge : book.judge batch = .ok .applied
  · rw [apply_applied hjudge]
    exact .inr (.inl accept_reached_self)
  · rw [apply_other hjudge]
    by_cases hvalid : batch.validate = .ok ()
    · have hsome : (checkedAddSigned (book.nextWatermark batch.receivedAt)
          (-book.retention)).isSome := by
        rw [Option.isSome_iff_ne_none]
        exact fun hnone => hreturns (judge_overflow hvalid hnone)
      by_cases hreached : book.Reached batch
      · exact .inr (.inl hreached)
      · by_cases hseen : book.Remembers batch
        · obtain ⟨seen, hseen, -⟩ := hseen
          exact .inr (.inr ⟨seen, hseen⟩)
        · exact absurd (judge_applied.mpr ⟨hvalid, hsome, hseen, hreached⟩) hjudge
    · exact .inl hvalid

theorem known_unchanged (h : book.Known batch) (hkeep : book.EvictsNothing batch) :
    (book.apply batch).2 = book := by
  have hno : book.judge batch ≠ .ok .applied := by
    intro hjudge
    obtain ⟨hvalid, -, hnew, hahead⟩ := judge_applied.mp hjudge
    rcases h with hinvalid | hreached | ⟨seen, hseen⟩
    · exact hinvalid hvalid
    · exact hahead hreached
    · exact hnew ⟨seen, hseen, (hkeep hjudge).2.1 seen (mem_valuesOf.mpr ⟨_, hseen⟩)⟩
  rw [apply_other hno]

/-! ## Runs -/

/-- Everything the replay says of a book after a run. -/
structure FollowsReplay (evs : List (QuoteBatchV1 × Except QuoteBookError ApplyBatch))
    (book : QuoteBook D) : Prop where
  /-- A snapshot shows exactly what the log reads under the keys of its session. -/
  snapshot : ∀ session builtAt snapshot, book.snapshot session builtAt = .ok snapshot →
    ∀ q : QuoteV1, q ∈ snapshot.quotes ↔
      q.marketSession = session ∧ lastQuote (keyOf q) (accepted evs) = some q
  /-- It shows one quote for a provider and a contract. -/
  once : ∀ session builtAt snapshot, book.snapshot session builtAt = .ok snapshot →
    (snapshot.quotes.map keyOf).Nodup
  /-- Each quote comes from a live batch of its provider's present generation. -/
  generation : ∀ session builtAt snapshot, book.snapshot session builtAt = .ok snapshot →
    ∀ q ∈ snapshot.quotes, ∃ batch ∈ accepted evs, batch.provider = q.provider ∧
      q ∈ batch.quotes ∧ batch.providerState.isLive = true ∧
      (book.cursors[q.provider]?).map (·.connectionGeneration) =
        some batch.providerState.connectionGeneration
  /-- The positions of a provider's accepted batches strictly increase. -/
  ascending : (accepted evs).Pairwise fun a b => a.provider = b.provider →
    positionOf a < positionOf b
  /-- A provider's cursor is the position of its last accepted batch. -/
  cursors : ∀ p : Provider, (book.cursors[p]?).map Cursor.position =
    (((accepted evs).filter (·.provider = p)).getLast?).map positionOf
  /-- A batch that is not applied leaves the book as it was. -/
  unchanged : ∀ batch, (book.apply batch).1 ≠ .ok .applied → (book.apply batch).2 = book
  /-- So does a batch that was given before, whatever it was answered. -/
  again : ∀ ev ∈ evs, book.EvictsNothing ev.1 → (book.apply ev.1).2 = book

variable {evs : List (QuoteBatchV1 × Except QuoteBookError ApplyBatch)}

theorem accepted_append {answer : Except QuoteBookError ApplyBatch} :
    accepted (evs ++ [(batch, answer)]) =
      if answer = .ok .applied then accepted evs ++ [batch] else accepted evs := by
  rw [accepted, filter_append, map_append]
  split
  · rename_i h
    simp [h, accepted]
  · rename_i h
    simp [h, accepted]

/-- What an undisturbed run keeps. -/
structure Follows (evs : List (QuoteBatchV1 × Except QuoteBookError ApplyBatch))
    (book : QuoteBook D) : Prop where
  sound : book.Sound
  replays : book.Replays (accepted evs)
  ascending : (accepted evs).Pairwise fun a b => a.provider = b.provider →
    positionOf a < positionOf b
  reached : ∀ b ∈ accepted evs, book.Reached b
  known : ∀ ev ∈ evs, book.Known ev.1

theorem apply_follows (h : book.Follows evs) (hok : book.Undisturbed batch) :
    (book.apply batch).2.Follows (evs ++ [(batch, (book.apply batch).1)]) := by
  have hself := apply_known hok.1
  by_cases hjudge : book.judge batch = .ok .applied
  · obtain ⟨hvalid, -, -, hahead⟩ := judge_applied.mp hjudge
    rw [apply_applied hjudge] at hself ⊢
    have hlog : accepted (evs ++ [(batch, .ok .applied)]) = accepted evs ++ [batch] := by
      rw [accepted_append, if_pos rfl]
    refine ⟨accept_sound h.sound hvalid hahead, ?_, ?_, ?_, ?_⟩
    · rw [hlog]
      exact accept_replays h.replays hjudge hok.2
    · rw [hlog, pairwise_append]
      refine ⟨h.ascending, pairwise_singleton _ _, ?_⟩
      intro a ha b hb hp
      rw [mem_singleton.mp hb] at hp ⊢
      -- The cursor had reached `a` and had not reached the batch.
      obtain ⟨cursor, hcursor, hle⟩ := h.reached a ha
      rw [hp] at hcursor
      exact hle.trans_lt (lt_of_not_ge fun hge => hahead ⟨cursor, hcursor, hge⟩)
    · intro b hb
      rw [hlog] at hb
      rcases mem_append.mp hb with hb | hb
      · exact accept_reached hahead (h.reached b hb)
      · rw [mem_singleton.mp hb]
        exact accept_reached_self
    · intro ev hev
      rcases mem_append.mp hev with hev | hev
      · exact accept_known hjudge hok.2 (h.known ev hev)
      · rw [mem_singleton.mp hev]
        exact hself
  · rw [apply_other hjudge] at hself ⊢
    have hlog : accepted (evs ++ [(batch, book.judge batch)]) = accepted evs := by
      rw [accepted_append, if_neg hjudge]
    refine ⟨h.sound, ?_, ?_, ?_, ?_⟩
    · rw [hlog]
      exact h.replays
    · rw [hlog]
      exact h.ascending
    · rw [hlog]
      exact h.reached
    · intro ev hev
      rcases mem_append.mp hev with hev | hev
      · exact h.known ev hev
      · rw [mem_singleton.mp hev]
        exact hself

theorem run_follows {retention : TimeDelta} {maxQuotes maxBatches : Nat} {hr : 0 < retention}
    {hq : 0 < maxQuotes} {hb : 0 < maxBatches}
    (run : Run apply Undisturbed (fresh retention maxQuotes maxBatches hr hq hb) evs book) :
    book.Follows evs := by
  refine run.invariant_log (I := fun evs book => book.Follows evs) ?_ ?_
  · refine ⟨fresh_sound, fresh_replays, List.Pairwise.nil, ?_, ?_⟩
    · intro b hb
      cases hb
    · intro ev hev
      cases hev
  · intro evs book batch h hok
    exact apply_follows h hok

omit [DecidableEq D] in
theorem mem_snapshot {session : MarketSession} {builtAt : DateTime}
    {snapshot : AnalyticalOptionSnapshotV1 D} (hsound : book.Sound) (h : book.Replays log)
    (hs : book.snapshot session builtAt = .ok snapshot) {q : QuoteV1} :
    q ∈ snapshot.quotes ↔ q.marketSession = session ∧ lastQuote (keyOf q) log = some q := by
  obtain ⟨-, id, rfl, -, -⟩ := snapshot_ok.mp hs
  change q ∈ (book.sessionQuotes session).map (·.quote) ↔ _
  rw [← h.quotes]
  constructor
  · intro hq
    obtain ⟨stored, hmem, rfl⟩ := mem_map.mp hq
    obtain ⟨⟨k, hk⟩, hsession⟩ := (mem_sessionQuotes hsound).mp hmem
    refine ⟨hsession, ?_⟩
    rw [← (hsound.quotes k stored hk).1, hk]
    rfl
  · rintro ⟨hsession, hread⟩
    obtain ⟨stored, hk, rfl⟩ := Option.map_eq_some_iff.mp hread
    exact mem_map.mpr ⟨stored, (mem_sessionQuotes hsound).mpr ⟨⟨_, hk⟩, hsession⟩, rfl⟩

/-- **Replay.** A book from which nothing was evicted is the replay of the batches it accepted. -/
theorem quote_book_replays {retentionSeconds : UInt32} {maxQuotes maxBatches : Nat}
    {book₀ : QuoteBook D} {evs : List (QuoteBatchV1 × Except QuoteBookError ApplyBatch)}
    (hnew : new retentionSeconds maxQuotes maxBatches = .ok book₀)
    (run : Run apply Undisturbed book₀ evs book) : book.FollowsReplay evs := by
  obtain ⟨retention, hr, hq, hb, rfl⟩ := new_ok hnew
  have h := run_follows run
  refine ⟨?_, ?_, ?_, h.ascending, ?_, ?_, ?_⟩
  · intro session builtAt snapshot hs q
    exact mem_snapshot h.sound h.replays hs
  · intro session builtAt snapshot hs
    obtain ⟨-, -, -, -, hvalid⟩ := snapshot_ok.mp hs
    have hids := (AnalyticalOptionSnapshotV1.validate_ok.mp hvalid).2.2.2.2.2.1
    refine (List.Nodup.of_map _ hids).map_on ?_
    intro a ha b hb hkey
    have hread := ((mem_snapshot h.sound h.replays hs).mp ha).2
    rw [hkey, ((mem_snapshot h.sound h.replays hs).mp hb).2] at hread
    exact (Option.some.inj hread).symm
  · intro session builtAt snapshot hs q hq
    have hread := ((mem_snapshot h.sound h.replays hs).mp hq).2
    obtain ⟨batch, hwindow, hlive, hquote⟩ := mem_quotesAt (mem_of_getLast? hread)
    obtain ⟨hlog, hp⟩ := mem_sinceReset hwindow
    exact ⟨batch, hlog, hp, hquote, hlive, h.replays.sameGeneration _ batch hwindow⟩
  · intro p
    rw [h.replays.cursors, getLast?_provider]
  · intro batch hno
    by_cases hjudge : book.judge batch = .ok .applied
    · rw [apply_applied hjudge] at hno
      exact absurd rfl hno
    · rw [apply_other hjudge]
  · intro ev hev hkeep
    exact known_unchanged (h.known ev hev) hkeep

/-! ## A feed with a reset -/

def secondBatch : Token := ⟨"batch:ibkr:2", by decide, by decide, by decide⟩
def secondQuote : Token := ⟨"quote:ibkr:2", by decide, by decide, by decide⟩

/-- Two providers, and a new generation of the second. -/
def renewedFeed : List QuoteBatchV1 :=
  [indexBatch schwabBatch schwabQuote .schwab 1 1 (TimeDelta.seconds 1000),
    indexBatch ibkrBatch ibkrQuote .ibkr 1 1 (TimeDelta.seconds 1060),
    indexBatch secondBatch secondQuote .ibkr 2 1 (TimeDelta.seconds 1090)]

theorem quote_book_replays_renewed :
    let played := play apply (default : QuoteBook BookDocument) renewedFeed
    played.1.map (·.2) = [.ok .applied, .ok .applied, .ok .applied] ∧
      played.2.FollowsReplay played.1 := by
  have hplayed : (play apply (default : QuoteBook BookDocument) renewedFeed).1.map (·.2) =
      [.ok .applied, .ok .applied, .ok .applied] ∧
      Allowed apply Undisturbed (default : QuoteBook BookDocument) renewedFeed := by
    decide +kernel
  exact ⟨hplayed.1, quote_book_replays new_default (Run.play hplayed.2)⟩

end QuoteBook

end SpxSpark.Core
