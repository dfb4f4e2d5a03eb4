import SpxSpark.Core.QuoteBook

/-!
# Snapshot — when a book can be read back

A batch is checked against itself when it comes in, a snapshot is checked over everything it
collects.
-/

namespace SpxSpark.Core

open Std Domain Lib List
open TimeDelta (seconds)

variable {D : Type}

namespace QuoteBook

/-- What a book stores is valid, filed under its own key and of its provider's generation. -/
structure Sound (book : QuoteBook D) : Prop where
  quotes : ∀ (k : QuoteKey) (stored : StoredQuote), book.quotes[k]? = some stored →
    k = keyOf stored.quote ∧ stored.quote.validate = .ok () ∧
      (book.cursors[k.provider]?).map (·.connectionGeneration) = some stored.connectionGeneration
  states : ∀ (p : Provider) (state : ProviderStateV1), book.providerStates[p]? = some state →
    state.provider = p ∧ state.validate = .ok ()
  generations : ∀ p : Provider, (book.providerStates[p]?).map (·.connectionGeneration) =
    (book.cursors[p]?).map (·.connectionGeneration)

theorem fresh_sound {retention : TimeDelta} {maxQuotes maxBatches : Nat}
    {hr : 0 < retention} {hq : 0 < maxQuotes} {hb : 0 < maxBatches} :
    (fresh retention maxQuotes maxBatches hr hq hb : QuoteBook D).Sound where
  quotes := by
    intro k stored h
    simp [fresh] at h
  states := by
    intro p state h
    simp [fresh] at h
  generations := by
    intro p
    simp [fresh]

section
variable {book : QuoteBook D} {batch : QuoteBatchV1}

theorem same_generation (hahead : ¬ book.Reached batch) (hkeep : book.resets batch ≠ true)
    {cursor : Cursor D} (hcursor : book.cursors[batch.provider]? = some cursor) :
    cursor.connectionGeneration = batch.providerState.connectionGeneration := by
  have hnot : ¬ cursor.connectionGeneration < batch.providerState.connectionGeneration := by
    intro hlt
    refine hkeep ?_
    simp [resets, generationAdvanced, hcursor, hlt]
  have hlt : cursor.position < positionOf batch := by
    refine lt_of_not_ge fun hle => hahead ⟨cursor, hcursor, hle⟩
  rw [Cursor.position, positionOf, Prod.Lex.toLex_lt_toLex] at hlt
  omega

variable [BookHash D]

theorem accept_sound (h : book.Sound) (hvalid : batch.validate = .ok ())
    (hahead : ¬ book.Reached batch) : (book.accept batch).Sound := by
  obtain ⟨hstate, hprovider, hquotes⟩ := QuoteBatchV1.validate_ok hvalid
  refine ⟨?_, ?_, ?_⟩
  · intro k stored hk
    rcases accept_quote hk with ⟨hnew, hkey⟩ | ⟨hold, -, hkeep⟩
    · -- A quote of the batch.
      obtain ⟨-, quote, hmem, rfl⟩ := mem_storedQuotes.mp hnew
      obtain ⟨hquote, hsame⟩ := hquotes quote hmem
      have hk : k = keyOf quote := by
        rw [← hkey, batchKey, ← hsame]
        rfl
      refine ⟨hk, hquote, ?_⟩
      have hp : batch.provider = k.provider := by
        rw [hk]
        exact hsame.symm
      rw [accept_cursor, if_pos hp]
      rfl
    · -- A quote that was there: its provider's generation is unchanged.
      obtain ⟨hk, hquote, hgen⟩ := h.quotes k stored hold
      refine ⟨hk, hquote, ?_⟩
      rw [accept_cursor]
      split
      · rename_i hp
        have hkept : book.resets batch ≠ true := fun hr => hkeep ⟨hr, hp.symm⟩
        rw [← hp] at hgen
        obtain ⟨cursor, hcursor, hcgen⟩ := Option.map_eq_some_iff.mp hgen
        rw [← hcgen, same_generation hahead hkept hcursor]
        rfl
      · exact hgen
  · intro p state hp
    rw [accept_providerState] at hp
    split at hp
    · rename_i heq
      cases hp
      exact ⟨hprovider.trans heq, hstate⟩
    · exact h.states p state hp
  · intro p
    rw [accept_providerState, accept_cursor]
    split
    · rfl
    · exact h.generations p

variable [DecidableEq D]

theorem apply_sound (h : book.Sound) : (book.apply batch).2.Sound := by
  by_cases hjudge : book.judge batch = .ok .applied
  · obtain ⟨hvalid, -, -, hahead⟩ := judge_applied.mp hjudge
    rw [apply_applied hjudge]
    exact accept_sound h hvalid hahead
  · rw [apply_other hjudge]
    exact h

end

/-! ## What a snapshot collects -/

section
variable {book : QuoteBook D} {session : MarketSession}

theorem sessionQuotes_sound (h : book.Sound) : book.sessionQuotes session =
    (valuesOf book.quotes).filter fun stored => stored.quote.marketSession == session := by
  rw [sessionQuotes, filter_eq_self]
  intro stored hmem
  obtain ⟨k, hk⟩ := mem_valuesOf.mp (mem_filter.mp hmem).1
  obtain ⟨hkey, -, hgen⟩ := h.quotes k stored hk
  have hp : k.provider = stored.quote.provider := congrArg QuoteKey.provider hkey
  rw [← h.generations, hp] at hgen
  obtain ⟨state, hstate, hsame⟩ := Option.map_eq_some_iff.mp hgen
  rw [hstate, Option.any_some, hsame, beq_self_eq_true]

theorem mem_sessionQuotes (h : book.Sound) {stored : StoredQuote} :
    stored ∈ book.sessionQuotes session ↔
      (∃ k : QuoteKey, book.quotes[k]? = some stored) ∧ stored.quote.marketSession = session := by
  rw [sessionQuotes_sound h, mem_filter, mem_valuesOf, beq_iff_eq]

theorem collect_nodup : ∀ {stored : List StoredQuote} {ids : List Token},
    (stored.foldl (fun ids s => if s.sourceBatchId ∈ ids then ids else ids ++ [s.sourceBatchId])
      ids).Nodup ↔ ids.Nodup
  | [], _ => Iff.rfl
  | s :: stored, ids => by
      rw [foldl_cons, collect_nodup]
      split
      · exact Iff.rfl
      · rename_i hnew
        rw [nodup_append]
        constructor
        · exact fun h => h.1
        · intro h
          refine ⟨h, nodup_singleton _, ?_⟩
          intro a ha b hb heq
          rw [mem_singleton.mp hb] at heq
          rw [heq] at ha
          exact hnew ha

theorem collect_ne_nil : ∀ {stored : List StoredQuote} {ids : List Token}, ids ≠ [] →
    stored.foldl (fun ids s => if s.sourceBatchId ∈ ids then ids else ids ++ [s.sourceBatchId])
      ids ≠ []
  | [], _, h => h
  | s :: stored, ids, h => by
      rw [foldl_cons]
      refine collect_ne_nil ?_
      split
      · exact h
      · simp

/-- The last batches of two providers have different identities. -/
def DistinctBatches (book : QuoteBook D) : Prop :=
  ∀ (p p' : Provider) (c c' : Cursor D), book.cursors[p]? = some c → book.cursors[p']? = some c' →
    c.batchId = c'.batchId → p = p'

/-- Two stored quotes of a session have different quote ids. -/
def DistinctQuotes (book : QuoteBook D) (session : MarketSession) : Prop :=
  ∀ (k k' : QuoteKey) (s s' : StoredQuote), book.quotes[k]? = some s → book.quotes[k']? = some s' →
    s.quote.marketSession = session → s'.quote.marketSession = session →
      s.quote.quoteId = s'.quote.quoteId → k = k'

theorem sourceBatchIds_nodup {stored : List StoredQuote} :
    (book.sourceBatchIds stored).Nodup ↔ book.DistinctBatches := by
  rw [sourceBatchIds, collect_nodup]
  have hall : (valuesOf book.cursors).map (·.batchId) =
      ((valuesOf book.cursors).filter fun _ => true).map (·.batchId) := by
    rw [filter_eq_self.mpr fun _ _ => rfl]
  rw [hall, nodup_column]
  simp [DistinctBatches]

theorem quoteIds_nodup (h : book.Sound) :
    (((book.sessionQuotes session).map (·.quote)).map (·.quoteId)).Nodup ↔
      book.DistinctQuotes session := by
  rw [sessionQuotes_sound h, map_map, nodup_column]
  simp [DistinctQuotes]

end

/-! ## When a snapshot is available -/

section
variable [BookHash D] {book : QuoteBook D} {session : MarketSession} {builtAt : DateTime}

theorem snapshot_ok {snapshot : AnalyticalOptionSnapshotV1 D} :
    book.snapshot session builtAt = .ok snapshot ↔ book.cursors.isEmpty = false ∧
      ∃ snapshotId, snapshot = book.assemble session builtAt snapshotId ∧
        Token.new ("snapshot:" ++ (BookHash.text (book.provenanceHash session builtAt)).short)
          "snapshot_id" = .ok snapshotId ∧ snapshot.validate = .ok () := by
  rw [QuoteBook.snapshot]
  simp only [require_ok, bind_ok, mapError_ok, pure, Except.pure, Except.ok.injEq]
  constructor
  · rintro ⟨-, hne, id, hid, ⟨⟩, hvalid, rfl⟩
    exact ⟨hne, id, rfl, hid, hvalid⟩
  · rintro ⟨hne, id, rfl, hid, hvalid⟩
    exact ⟨(), hne, id, hid, (), hvalid, rfl⟩

theorem assemble_valid (h : book.Sound) (hne : book.cursors.isEmpty = false)
    (hbuilt : ∀ (p : Provider) (state : ProviderStateV1),
      book.providerStates[p]? = some state → state.observedAt ≤ builtAt) (snapshotId : Token) :
    (book.assemble session builtAt snapshotId).validate = .ok () ↔
      book.DistinctBatches ∧ book.DistinctQuotes session := by
  have hsources : book.sourceBatchIds (book.sessionQuotes session) ≠ [] := by
    refine collect_ne_nil fun hnil => ?_
    exact valuesOf_ne_nil hne (map_eq_nil_iff.mp hnil)
  have hproviders : ((valuesOf book.providerStates).map (·.provider)).Nodup := by
    have hall : (valuesOf book.providerStates).map (·.provider) =
        ((valuesOf book.providerStates).filter fun _ => true).map (·.provider) := by
      rw [filter_eq_self.mpr fun _ _ => rfl]
    rw [hall, nodup_column]
    intro p p' state state' hp hp' _ _ hsame
    rw [← (h.states p state hp).1, ← (h.states p' state' hp').1]
    exact hsame
  have hstates : ∀ state ∈ valuesOf book.providerStates,
      state.validate = .ok () ∧ state.observedAt ≤ builtAt := by
    intro state hmem
    obtain ⟨p, hp⟩ := mem_valuesOf.mp hmem
    exact ⟨(h.states p state hp).2, hbuilt p state hp⟩
  have hquotes : ∀ q ∈ (book.sessionQuotes session).map (·.quote),
      q.validate = .ok () ∧ q.marketSession = session := by
    intro q hq
    obtain ⟨stored, hstored, rfl⟩ := mem_map.mp hq
    obtain ⟨⟨k, hk⟩, hsession⟩ := (mem_sessionQuotes h).mp hstored
    exact ⟨(h.quotes k stored hk).2.1, hsession⟩
  rw [AnalyticalOptionSnapshotV1.validate_ok]
  constructor
  · rintro ⟨-, -, hbatches, -, -, hids, -⟩
    exact ⟨sourceBatchIds_nodup.mp hbatches, (quoteIds_nodup h).mp hids⟩
  · rintro ⟨hbatches, hids⟩
    exact ⟨rfl, hsources, sourceBatchIds_nodup.mpr hbatches, hproviders, hstates,
      (quoteIds_nodup h).mpr hids, hquotes⟩

theorem snapshot_ok_iff (h : book.Sound) (hne : book.cursors.isEmpty = false)
    (hbuilt : ∀ (p : Provider) (state : ProviderStateV1),
      book.providerStates[p]? = some state → state.observedAt ≤ builtAt) :
    (∃ snapshot, book.snapshot session builtAt = .ok snapshot) ↔
      book.DistinctBatches ∧ book.DistinctQuotes session := by
  constructor
  · rintro ⟨snapshot, hs⟩
    obtain ⟨-, id, rfl, -, hvalid⟩ := snapshot_ok.mp hs
    exact (assemble_valid h hne hbuilt id).mp hvalid
  · intro hdistinct
    obtain ⟨id, hid, -⟩ := (BookHash.text (book.provenanceHash session builtAt)).token_ok
      "snapshot:" "snapshot_id" (by decide) (by decide) (by decide)
    exact ⟨_, snapshot_ok.mpr ⟨hne, id, rfl, hid, (assemble_valid h hne hbuilt id).mpr hdistinct⟩⟩

variable [DecidableEq D] {book₀ : QuoteBook D}
  {evs : List (QuoteBatchV1 × Except QuoteBookError ApplyBatch)}

theorem run_sound (h₀ : book₀.Sound) (run : Run apply anyStep book₀ evs book) : book.Sound :=
  run.invariant h₀ fun _ _ hs _ => apply_sound hs

theorem run_cursors (run : Run apply anyStep book₀ evs book)
    (happlied : ∃ ev ∈ evs, ev.2 = .ok .applied) : book.cursors.isEmpty = false := by
  refine run.invariant_log
    (I := fun evs book => (∃ ev ∈ evs, ev.2 = .ok .applied) → book.cursors.isEmpty = false)
    ?_ ?_ happlied
  · rintro ⟨ev, hev, -⟩
    cases hev
  · intro evs book batch ih _ happlied
    by_cases hjudge : book.judge batch = .ok .applied
    · rw [apply_applied hjudge]
      exact ExtTreeMap.isEmpty_eq_false_iff.mpr ExtTreeMap.insert_ne_empty
    · rw [apply_other hjudge] at happlied ⊢
      obtain ⟨ev, hev, hok⟩ := happlied
      rcases mem_append.mp hev with hev | hev
      · exact ih ⟨ev, hev, hok⟩
      · rw [mem_singleton.mp hev] at hok
        exact absurd hok hjudge

/-- **Snapshots.** Once a batch was applied, a snapshot not built before what its providers
observed is refused for two reasons only: two providers whose last batches have one identity, or
two stored quotes of the session with one quote id. -/
theorem snapshot_available {retentionSeconds : UInt32} {maxQuotes maxBatches : Nat}
    (hnew : new retentionSeconds maxQuotes maxBatches = .ok book₀)
    (run : Run apply anyStep book₀ evs book) (happlied : ∃ ev ∈ evs, ev.2 = .ok .applied)
    (hbuilt : ∀ (p : Provider) (state : ProviderStateV1),
      book.providerStates[p]? = some state → state.observedAt ≤ builtAt) :
    (∃ snapshot, book.snapshot session builtAt = .ok snapshot) ↔
      book.DistinctBatches ∧ book.DistinctQuotes session := by
  obtain ⟨retention, hr, hq, hb, rfl⟩ := new_ok hnew
  exact snapshot_ok_iff (run_sound fresh_sound run) (run_cursors run happlied) hbuilt

end

/-! ## Two providers, one quote id -/

def indexQuoteId : Token := ⟨"quote:index:1", by decide, by decide, by decide⟩

/-- Each provider names its quotes for itself. -/
def namedFeed : List QuoteBatchV1 :=
  [indexBatch schwabBatch schwabQuote .schwab 1 1 (seconds 1000),
    indexBatch ibkrBatch ibkrQuote .ibkr 1 1 (seconds 1060)]

/-- Both providers give their quote the same id. -/
def sharedFeed : List QuoteBatchV1 :=
  [indexBatch schwabBatch indexQuoteId .schwab 1 1 (seconds 1000),
    indexBatch ibkrBatch indexQuoteId .ibkr 1 1 (seconds 1060)]

def fed (feed : List QuoteBatchV1) : QuoteBook BookDocument :=
  (play apply (default : QuoteBook BookDocument) feed).2

def answers (feed : List QuoteBatchV1) : List (Except QuoteBookError ApplyBatch) :=
  (play apply (default : QuoteBook BookDocument) feed).1.map (·.2)

theorem fed_applied {feed : List QuoteBatchV1} (h : .ok .applied ∈ answers feed) :
    ∃ ev ∈ (play apply (default : QuoteBook BookDocument) feed).1, ev.2 = .ok .applied := by
  obtain ⟨ev, hev, hok⟩ := mem_map.mp h
  exact ⟨ev, hev, hok⟩

theorem fed_observed {feed : List QuoteBatchV1} {t : DateTime}
    (h : ∀ state ∈ valuesOf (fed feed).providerStates, state.observedAt ≤ t) :
    ∀ (p : Provider) (state : ProviderStateV1),
      (fed feed).providerStates[p]? = some state → state.observedAt ≤ t :=
  fun p state hp => h state (mem_valuesOf.mpr ⟨p, hp⟩)

theorem snapshot_available_named :
    (∃ snapshot, (fed namedFeed).snapshot .gth (seconds 1100) = .ok snapshot) ∧
      (fed namedFeed).DistinctBatches ∧ (fed namedFeed).DistinctQuotes .gth := by
  have hplayed : .ok .applied ∈ answers namedFeed ∧
      (∀ state ∈ valuesOf (fed namedFeed).providerStates,
        state.observedAt ≤ seconds 1100) ∧
      ((fed namedFeed).snapshot .gth (seconds 1100)).toOption.isSome = true := by
    decide +kernel
  obtain ⟨happlied, hbuilt, hsome⟩ := hplayed
  have hok : ∃ snapshot,
      (fed namedFeed).snapshot .gth (seconds 1100) = .ok snapshot := by
    cases hs : (fed namedFeed).snapshot .gth (seconds 1100) with
    | error e =>
      rw [hs] at hsome
      cases hsome
    | ok snapshot => exact ⟨snapshot, rfl⟩
  exact ⟨hok, (snapshot_available new_default (Run.play (allowed_anyStep namedFeed default))
    (fed_applied happlied) (fed_observed hbuilt)).mp hok⟩

/-- Every batch is valid and applied, and no snapshot of the session can be built any more. -/
theorem snapshot_unavailable :
    ¬ ∀ evs (book : QuoteBook BookDocument), Run apply anyStep default evs book →
      (∀ ev ∈ evs, ev.1.validate = .ok ()) → (∃ ev ∈ evs, ev.2 = .ok .applied) →
      ∀ session builtAt, (∀ (p : Provider) (state : ProviderStateV1),
        book.providerStates[p]? = some state → state.observedAt ≤ builtAt) →
        ∃ snapshot, book.snapshot session builtAt = .ok snapshot := by
  intro h
  have hplayed : (∀ ev ∈ (play apply (default : QuoteBook BookDocument) sharedFeed).1,
        ev.1.validate = .ok ()) ∧ .ok .applied ∈ answers sharedFeed ∧
      (∀ state ∈ valuesOf (fed sharedFeed).providerStates,
        state.observedAt ≤ seconds 1100) ∧
      ((fed sharedFeed).snapshot .gth (seconds 1100)).toOption.isSome = false := by
    decide +kernel
  obtain ⟨hvalid, happlied, hbuilt, hnone⟩ := hplayed
  obtain ⟨snapshot, hs⟩ := h _ _ (Run.play (allowed_anyStep sharedFeed default)) hvalid
    (fed_applied happlied) .gth (seconds 1100) (fed_observed hbuilt)
  rw [fed] at hnone
  rw [hs] at hnone
  cases hnone

end QuoteBook

end SpxSpark.Core
