import SpxSpark.Domain.Market
import SpxSpark.Lib.Window
import SpxSpark.Lib.Run
import Mathlib.Data.Prod.Lex

/-!
# QuoteBook — the bounded hot quote book of the core

A book keeps four ordered maps: one cursor and one state per provider, the quotes by provider,
session and contract identity, and the batch identities it remembers.
-/

namespace SpxSpark.Core

open Std Domain Lib

/-! ## Keys in the order of `BTreeMap` -/

deriving instance Ord for Provider, MarketSession

instance : TransOrd Provider where
  eq_swap {a b} := by cases a <;> cases b <;> rfl
  isLE_trans {a b c} := by cases a <;> cases b <;> cases c <;> decide

instance : LawfulEqOrd Provider where
  compare_self {a} := by cases a <;> rfl
  eq_of_compare {a b} := by cases a <;> cases b <;> decide

instance : TransOrd MarketSession where
  eq_swap {a b} := by cases a <;> cases b <;> rfl
  isLE_trans {a b c} := by cases a <;> cases b <;> cases c <;> decide

instance : LawfulEqOrd MarketSession where
  compare_self {a} := by cases a <;> rfl
  eq_of_compare {a b} := by cases a <;> cases b <;> decide

/-- Tokens are ordered as their texts. -/
instance : Ord Token := ⟨compareOn Token.value⟩

instance : TransOrd Token := inferInstanceAs (TransCmp (compareOn Token.value))

instance : LawfulEqOrd Token where
  compare_self {a} := ReflOrd.compare_self (a := a.value)
  eq_of_compare h := Token.ext (LawfulEqOrd.eq_of_compare h)

/-- `(Provider, MarketSession, String)`. -/
structure QuoteKey where
  provider : Provider
  marketSession : MarketSession
  identity : String
  deriving DecidableEq

instance : Ord QuoteKey where
  compare := compareLex (compareOn (·.provider))
    (compareLex (compareOn (·.marketSession)) (compareOn (·.identity)))

instance : TransOrd QuoteKey := inferInstanceAs (TransCmp (compareLex (compareOn QuoteKey.provider)
  (compareLex (compareOn QuoteKey.marketSession) (compareOn QuoteKey.identity))))

instance : LawfulEqOrd QuoteKey where
  compare_self := (inferInstance : ReflCmp (compareLex (compareOn QuoteKey.provider)
    (compareLex (compareOn QuoteKey.marketSession) (compareOn QuoteKey.identity)))).compare_self
  eq_of_compare {a b} h := by
    obtain ⟨hp, hrest⟩ := compareLex_eq_eq.mp h
    obtain ⟨hm, hi⟩ := compareLex_eq_eq.mp hrest
    have hp : a.provider = b.provider := LawfulEqOrd.eq_of_compare hp
    have hm : a.marketSession = b.marketSession := LawfulEqOrd.eq_of_compare hm
    have hi : a.identity = b.identity := LawfulEqOrd.eq_of_compare hi
    cases a
    cases b
    cases hp
    cases hm
    cases hi
    rfl

/-! ## What a book holds -/

/-- `canonical_json_hash` on what the book hashes, digests in `D` with their text. -/
class BookHash (D : Type) where
  quoteBatch : QuoteBatchV1 → D
  provenance :
    MarketSession → DateTime → List Token → List ProviderStateV1 → List QuoteV1 → D
  text : D → Sha256Hex

inductive BookDocument
  | quoteBatch (batch : QuoteBatchV1)
  | provenance (session : MarketSession) (builtAt : DateTime) (sourceBatchIds : List Token)
      (providerStates : List ProviderStateV1) (quotes : List QuoteV1)
  deriving DecidableEq

/-- The instant a document is about. -/
def BookDocument.at : BookDocument → DateTime
  | .quoteBatch batch => batch.receivedAt
  | .provenance _ builtAt _ _ _ => builtAt

/-- Documents as their own digests, told apart in print by their instants. -/
instance : BookHash BookDocument where
  quoteBatch := .quoteBatch
  provenance := .provenance
  text document := .ofNat document.at.toNat

/-- The source's errors, and `timeOverflow` for the panic of `DateTime - TimeDelta`. -/
inductive QuoteBookError
  | domain (error : DomainError)
  | sequenceCollision (provider : Provider) (sequence : Nat)
  | batchIdentityCollision (batchId : Token)
  | empty
  | invalidConfiguration (what : String)
  | timeOverflow
  deriving DecidableEq

inductive ApplyBatch
  | applied
  | duplicate
  | stale
  deriving DecidableEq

structure Cursor (D : Type) where
  connectionGeneration : Nat
  sequence : Nat
  batchId : Token
  payloadSha256 : D

structure StoredQuote where
  connectionGeneration : Nat
  sourceBatchId : Token
  acceptedAt : DateTime
  quote : QuoteV1

structure SeenBatch (D : Type) where
  payloadSha256 : D
  acceptedAt : DateTime

/-- A book with its bounds, which only `new` sets and which are positive. -/
structure QuoteBook (D : Type) where
  cursors : ExtTreeMap Provider (Cursor D)
  providerStates : ExtTreeMap Provider ProviderStateV1
  quotes : ExtTreeMap QuoteKey StoredQuote
  seenBatches : ExtTreeMap Token (SeenBatch D)
  watermark : Option DateTime
  retention : TimeDelta
  maxQuoteEntries : Nat
  maxBatchIdentityEntries : Nat
  retention_pos : 0 < retention
  maxQuoteEntries_pos : 0 < maxQuoteEntries
  maxBatchIdentityEntries_pos : 0 < maxBatchIdentityEntries

/-- `TimeDelta::try_seconds`: a duration has at most `i64::MAX` milliseconds. -/
def trySeconds (seconds : Nat) : Option TimeDelta :=
  if seconds ≤ (2 ^ 63 - 1) / 1000 then some (TimeDelta.seconds seconds) else none

theorem trySeconds_pos {seconds : Nat} {d : TimeDelta} (hs : 0 < seconds)
    (h : trySeconds seconds = some d) : 0 < d := by
  unfold trySeconds at h
  split at h
  · cases h
    exact Int.mul_pos (Int.natCast_pos.mpr hs) (by decide)
  · cases h

def keyOf (quote : QuoteV1) : QuoteKey where
  provider := quote.provider
  marketSession := quote.marketSession
  identity := quote.identity.value

/-- The provider cursor of a batch, ordered lexicographically. -/
def positionOf (batch : QuoteBatchV1) : Nat ×ₗ Nat :=
  toLex (batch.providerState.connectionGeneration, batch.sequence)

def Cursor.position {D : Type} (cursor : Cursor D) : Nat ×ₗ Nat :=
  toLex (cursor.connectionGeneration, cursor.sequence)

/-- What the provider's cursor says of a batch. -/
def Cursor.judge {D : Type} [DecidableEq D] (cursor : Cursor D) (batch : QuoteBatchV1)
    (payloadSha256 : D) : Except QuoteBookError ApplyBatch :=
  if batch.providerState.connectionGeneration < cursor.connectionGeneration then .ok .stale
  else if batch.providerState.connectionGeneration = cursor.connectionGeneration then
    if batch.sequence < cursor.sequence then .ok .stale
    else if batch.sequence = cursor.sequence then
      if batch.batchId = cursor.batchId then
        if payloadSha256 = cursor.payloadSha256 then .ok .duplicate
        else .error (.batchIdentityCollision batch.batchId)
      else .error (.sequenceCollision batch.provider batch.sequence)
    else .ok .applied
  else .ok .applied

theorem Cursor.judge_applied {D : Type} [DecidableEq D] {cursor : Cursor D} {batch : QuoteBatchV1}
    {payloadSha256 : D} :
    cursor.judge batch payloadSha256 = .ok .applied ↔ cursor.position < positionOf batch := by
  rw [Cursor.position, positionOf, Prod.Lex.toLex_lt_toLex]
  unfold Cursor.judge
  split_ifs with hOlder hSame hBefore hAt hId hSha
  · exact iff_of_false (by simp) (by omega)
  · exact iff_of_false (by simp) (by omega)
  · exact iff_of_false (by simp) (by omega)
  · exact iff_of_false (by simp) (by omega)
  · exact iff_of_false (by simp) (by omega)
  · exact iff_of_true rfl (by omega)
  · exact iff_of_true rfl (by omega)

namespace QuoteBook

variable {D : Type}

/-- A book before its first batch. -/
def fresh (retention : TimeDelta) (maxQuoteEntries maxBatchIdentityEntries : Nat)
    (retention_pos : 0 < retention) (maxQuoteEntries_pos : 0 < maxQuoteEntries)
    (maxBatchIdentityEntries_pos : 0 < maxBatchIdentityEntries) : QuoteBook D where
  cursors := ∅
  providerStates := ∅
  quotes := ∅
  seenBatches := ∅
  watermark := none
  retention
  maxQuoteEntries
  maxBatchIdentityEntries
  retention_pos
  maxQuoteEntries_pos
  maxBatchIdentityEntries_pos

def new (retentionSeconds : UInt32) (maxQuoteEntries maxBatchIdentityEntries : Nat) :
    Except QuoteBookError (QuoteBook D) :=
  if hs : 0 < retentionSeconds.toNat then
    match hr : trySeconds retentionSeconds.toNat with
    | none => .error (.invalidConfiguration "retention_seconds is not representable")
    | some retention =>
      if hq : 0 < maxQuoteEntries then
        if hb : 0 < maxBatchIdentityEntries then
          .ok (fresh retention maxQuoteEntries maxBatchIdentityEntries (trySeconds_pos hs hr) hq hb)
        else .error (.invalidConfiguration "max_batch_identity_entries must be positive")
      else .error (.invalidConfiguration "max_quote_entries must be positive")
  else .error (.invalidConfiguration "retention_seconds must be positive")

/-- `QuoteBook::default`. -/
def default : QuoteBook D :=
  fresh (TimeDelta.seconds 300) 4096 4096 (by decide) (by decide) (by decide)

theorem new_default : (new 300 4096 4096 : Except QuoteBookError (QuoteBook D)) = .ok default :=
  rfl

theorem new_ok {retentionSeconds : UInt32} {maxQuotes maxBatches : Nat} {book : QuoteBook D}
    (h : new retentionSeconds maxQuotes maxBatches = .ok book) :
    ∃ retention hr hq hb, book = fresh retention maxQuotes maxBatches hr hq hb := by
  unfold new at h
  split at h
  · split at h
    · cases h
    · split at h
      · split at h
        · cases h
          exact ⟨_, _, _, _, rfl⟩
        · cases h
      · cases h
  · cases h

/-- `self.watermark.map_or(received_at, |current| current.max(received_at))`. -/
def nextWatermark (book : QuoteBook D) (receivedAt : DateTime) : DateTime :=
  book.watermark.elim receivedAt (max · receivedAt)

/-- `generation_advanced`, for a batch its cursor lets through. -/
def generationAdvanced (book : QuoteBook D) (batch : QuoteBatchV1) : Bool :=
  (book.cursors[batch.provider]?).any fun cursor =>
    cursor.connectionGeneration < batch.providerState.connectionGeneration

/-- The remembered identity of a batch, unless it is older than the cutoff. -/
def remembered (book : QuoteBook D) (batchId : Token) (cutoff : DateTime) : Option (SeenBatch D) :=
  (book.seenBatches[batchId]?).filter (cutoff ≤ ·.acceptedAt)

/-- A batch that replaces what its provider had stored. -/
def resets (book : QuoteBook D) (batch : QuoteBatchV1) : Bool :=
  book.generationAdvanced batch || !batch.providerState.isLive ||
    batch.mode == .replaceProviderSnapshot

def storedQuote (batch : QuoteBatchV1) (quote : QuoteV1) : StoredQuote where
  connectionGeneration := batch.providerState.connectionGeneration
  sourceBatchId := batch.batchId
  acceptedAt := batch.receivedAt
  quote := quote

/-- Where a batch stores one of its quotes: under its own provider. -/
def batchKey (batch : QuoteBatchV1) (stored : StoredQuote) : QuoteKey :=
  { keyOf stored.quote with provider := batch.provider }

/-- The quotes a batch adds: none unless its provider is live. -/
def storedQuotes (batch : QuoteBatchV1) : List StoredQuote :=
  if batch.providerState.isLive then batch.quotes.map (storedQuote batch) else []

theorem mem_storedQuotes {batch : QuoteBatchV1} {stored : StoredQuote} :
    stored ∈ storedQuotes batch ↔ batch.providerState.isLive = true ∧
      ∃ quote ∈ batch.quotes, stored = storedQuote batch quote := by
  unfold storedQuotes
  split
  · rename_i hlive
    simp [hlive, eq_comm]
  · rename_i hlive
    simp [hlive]

def advanceWatermarkAndPrune (book : QuoteBook D) (receivedAt : DateTime) : QuoteBook D :=
  let watermark := book.nextWatermark receivedAt
  let cutoff := watermark - book.retention
  { book with
    watermark := some watermark
    quotes := prune StoredQuote.acceptedAt cutoff book.quotes
    seenBatches := prune SeenBatch.acceptedAt cutoff book.seenBatches }

def enforceEntryLimits (book : QuoteBook D) : QuoteBook D :=
  { book with
    quotes := evictOldest StoredQuote.acceptedAt book.maxQuoteEntries book.quotes
    seenBatches :=
      evictOldest SeenBatch.acceptedAt book.maxBatchIdentityEntries book.seenBatches }

/-- `self.quotes.retain(|(provider, _, _), _| *provider != batch.provider)`. -/
def clearProvider (p : Provider) (quotes : ExtTreeMap QuoteKey StoredQuote) :
    ExtTreeMap QuoteKey StoredQuote :=
  quotes.filter fun key _ => key.provider != p

variable [BookHash D]

/-- The writes of `apply` between pruning and the entry limits. -/
def store (book : QuoteBook D) (batch : QuoteBatchV1) (reset : Bool) : QuoteBook D :=
  let payloadSha256 := BookHash.quoteBatch batch
  let kept := if reset then clearProvider batch.provider book.quotes else book.quotes
  { book with
    quotes := putAll (batchKey batch) (storedQuotes batch) kept
    providerStates := book.providerStates.insert batch.provider batch.providerState
    cursors := book.cursors.insert batch.provider
      { connectionGeneration := batch.providerState.connectionGeneration
        sequence := batch.sequence
        batchId := batch.batchId
        payloadSha256 }
    seenBatches := book.seenBatches.insert batch.batchId
      { payloadSha256, acceptedAt := batch.receivedAt } }

/-- The part of `apply` from its first write on. -/
def accept (book : QuoteBook D) (batch : QuoteBatchV1) : QuoteBook D :=
  let pruned := book.advanceWatermarkAndPrune batch.receivedAt
  (pruned.store batch (book.resets batch)).enforceEntryLimits

/-- The part of `apply` before its first write: the answer it will give. -/
def judge [DecidableEq D] (book : QuoteBook D) (batch : QuoteBatchV1) :
    Except QuoteBookError ApplyBatch := do
  batch.validate.mapError .domain
  let payloadSha256 : D := BookHash.quoteBatch batch
  match checkedAddSigned (book.nextWatermark batch.receivedAt) (-book.retention) with
  | none => .error .timeOverflow
  | some candidateCutoff =>
    match book.remembered batch.batchId candidateCutoff with
    | some seen =>
      if seen.payloadSha256 = payloadSha256 then .ok .duplicate
      else .error (.batchIdentityCollision batch.batchId)
    | none =>
      match book.cursors[batch.provider]? with
      | none => .ok .applied
      | some cursor => cursor.judge batch payloadSha256

def apply [DecidableEq D] (book : QuoteBook D) (batch : QuoteBatchV1) :
    Except QuoteBookError ApplyBatch × QuoteBook D :=
  match book.judge batch with
  | .ok .applied => (.ok .applied, book.accept batch)
  | answer => (answer, book)

/-! ## Snapshots -/

omit [BookHash D] in
/-- The stored quotes a snapshot of `session` shows. -/
def sessionQuotes (book : QuoteBook D) (session : MarketSession) : List StoredQuote :=
  ((valuesOf book.quotes).filter fun stored => stored.quote.marketSession == session).filter
    fun stored => (book.providerStates[stored.quote.provider]?).any fun state =>
      state.connectionGeneration == stored.connectionGeneration

/-- The batches of the cursors, then those of the quotes that are not among them yet. -/
def sourceBatchIds (book : QuoteBook D) (stored : List StoredQuote) : List Token :=
  stored.foldl (fun ids s => if s.sourceBatchId ∈ ids then ids else ids ++ [s.sourceBatchId])
    ((valuesOf book.cursors).map (·.batchId))

def provenanceHash (book : QuoteBook D) (session : MarketSession) (builtAt : DateTime) : D :=
  let storedQuotes := book.sessionQuotes session
  BookHash.provenance session builtAt (book.sourceBatchIds storedQuotes)
    (valuesOf book.providerStates) (storedQuotes.map (·.quote))

/-- The snapshot before its validation. -/
def assemble (book : QuoteBook D) (session : MarketSession) (builtAt : DateTime)
    (snapshotId : Token) : AnalyticalOptionSnapshotV1 D where
  schemaVersion := analyticalSnapshotSchemaVersion
  snapshotId
  session
  builtAt
  sourceBatchIds := book.sourceBatchIds (book.sessionQuotes session)
  providerStates := valuesOf book.providerStates
  quotes := (book.sessionQuotes session).map (·.quote)
  provenanceHash := book.provenanceHash session builtAt

def snapshot (book : QuoteBook D) (session : MarketSession) (builtAt : DateTime) :
    Except QuoteBookError (AnalyticalOptionSnapshotV1 D) := do
  require (book.cursors.isEmpty = false) .empty
  let provenanceHash := book.provenanceHash session builtAt
  let snapshotId ←
    (Token.new ("snapshot:" ++ (BookHash.text provenanceHash).short) "snapshot_id").mapError .domain
  let snapshot := book.assemble session builtAt snapshotId
  snapshot.validate.mapError .domain
  pure snapshot

/-! ## What admitting a batch says -/

section
variable [DecidableEq D] {book : QuoteBook D} {batch : QuoteBatchV1}

/-- The cutoff a batch is judged and stored by. -/
def cutoff (book : QuoteBook D) (batch : QuoteBatchV1) : DateTime :=
  book.nextWatermark batch.receivedAt - book.retention

/-- The remembered identity of a batch answers for it. -/
def Remembers (book : QuoteBook D) (batch : QuoteBatchV1) : Prop :=
  ∃ seen, book.seenBatches[batch.batchId]? = some seen ∧ book.cutoff batch ≤ seen.acceptedAt

/-- The provider's cursor has reached the position of a batch. -/
def Reached (book : QuoteBook D) (batch : QuoteBatchV1) : Prop :=
  ∃ cursor, book.cursors[batch.provider]? = some cursor ∧ positionOf batch ≤ cursor.position

/-- A batch is applied exactly when it is valid, its cutoff is an instant, its identity is not
remembered and its provider's cursor has not reached it. -/
theorem judge_applied : book.judge batch = .ok .applied ↔
    batch.validate = .ok () ∧
      (checkedAddSigned (book.nextWatermark batch.receivedAt) (-book.retention)).isSome ∧
      ¬ book.Remembers batch ∧ ¬ book.Reached batch := by
  unfold judge Remembers Reached cutoff
  cases hv : batch.validate with
  | error e => simp [Except.mapError, bind, Except.bind]
  | ok u =>
    simp only [Except.mapError, bind, Except.bind, true_and]
    cases hc : checkedAddSigned (book.nextWatermark batch.receivedAt) (-book.retention) with
    | none => simp
    | some candidateCutoff =>
      have hcut : candidateCutoff = book.nextWatermark batch.receivedAt - book.retention :=
        checkedAddSigned_eq hc
      rw [← hcut]
      dsimp only
      cases hf : book.remembered batch.batchId candidateCutoff with
      | some seen =>
        obtain ⟨hseen, hle⟩ := Option.filter_eq_some_iff.mp hf
        refine iff_of_false ?_ fun h => h.2.1 ⟨seen, hseen, by simpa using hle⟩
        dsimp only
        split_ifs
        · simp
        · simp
      | none =>
        have hnew : ¬ ∃ seen, book.seenBatches[batch.batchId]? = some seen ∧
            candidateCutoff ≤ seen.acceptedAt := by
          rintro ⟨seen, hseen, hle⟩
          rw [remembered, Option.filter_eq_none_iff] at hf
          exact hf seen hseen (by simpa using hle)
        cases hcursor : book.cursors[batch.provider]? with
        | none => simp [hnew]
        | some cursor => simp [hnew, Cursor.judge_applied]

theorem apply_applied (h : book.judge batch = .ok .applied) :
    book.apply batch = (.ok .applied, book.accept batch) := by
  rw [apply, h]

theorem apply_other (h : book.judge batch ≠ .ok .applied) :
    book.apply batch = (book.judge batch, book) := by
  unfold apply
  split
  · rename_i hok
    exact absurd hok h
  · rfl

end

/-! ## What accepting a batch leaves -/

section
variable {book : QuoteBook D} {batch : QuoteBatchV1}

/-- The cursor `accept` writes. -/
def cursorOf (batch : QuoteBatchV1) : Cursor D where
  connectionGeneration := batch.providerState.connectionGeneration
  sequence := batch.sequence
  batchId := batch.batchId
  payloadSha256 := BookHash.quoteBatch batch

theorem accept_cursors :
    (book.accept batch).cursors = book.cursors.insert batch.provider (cursorOf batch) := rfl

theorem accept_providerStates : (book.accept batch).providerStates =
    book.providerStates.insert batch.provider batch.providerState := rfl

@[simp]
theorem accept_watermark :
    (book.accept batch).watermark = some (book.nextWatermark batch.receivedAt) := rfl

@[simp]
theorem accept_retention : (book.accept batch).retention = book.retention := rfl

theorem accept_cursor {p : Provider} : (book.accept batch).cursors[p]? =
    if batch.provider = p then some (cursorOf batch) else book.cursors[p]? := by
  rw [accept_cursors, ExtTreeMap.getElem?_insert]
  simp

theorem accept_providerState {p : Provider} : (book.accept batch).providerStates[p]? =
    if batch.provider = p then some batch.providerState else book.providerStates[p]? := by
  rw [accept_providerStates, ExtTreeMap.getElem?_insert]
  simp

theorem getElem?_clearProvider {p : Provider} {quotes : ExtTreeMap QuoteKey StoredQuote}
    {k : QuoteKey} :
    (clearProvider p quotes)[k]? = if k.provider = p then none else quotes[k]? := by
  rw [clearProvider, ExtTreeMap.getElem?_filter']
  by_cases hp : k.provider = p
  · simp [hp]
  · cases quotes[k]? <;> simp [hp]

theorem store_quotes {reset : Bool} {k : QuoteKey} : (book.store batch reset).quotes[k]? =
    (((storedQuotes batch).filter fun stored => batchKey batch stored = k).getLast?).or
      (if reset = true ∧ k.provider = batch.provider then none else book.quotes[k]?) := by
  have hread : (book.store batch reset).quotes[k]? = _ := getElem?_putAll
  rw [hread]
  cases reset with
  | false => simp
  | true => simp [getElem?_clearProvider]

theorem store_seen {reset : Bool} {id : Token} : (book.store batch reset).seenBatches[id]? =
    if batch.batchId = id then some ⟨BookHash.quoteBatch batch, batch.receivedAt⟩
    else book.seenBatches[id]? := by
  have hread : (book.store batch reset).seenBatches[id]? = _ := ExtTreeMap.getElem?_insert
  rw [hread]
  simp

theorem accept_quote {k : QuoteKey} {stored : StoredQuote}
    (h : (book.accept batch).quotes[k]? = some stored) :
    (stored ∈ storedQuotes batch ∧ batchKey batch stored = k) ∨
      (book.quotes[k]? = some stored ∧ book.cutoff batch ≤ stored.acceptedAt ∧
        ¬ (book.resets batch = true ∧ k.provider = batch.provider)) := by
  have hread := getElem?_evictOldest h
  rw [store_quotes, Option.or_eq_some_iff] at hread
  rcases hread with hnew | ⟨-, hold⟩
  · have hmem := List.mem_of_getLast? hnew
    rw [List.mem_filter, decide_eq_true_iff] at hmem
    exact .inl hmem
  · split at hold
    · cases hold
    · rename_i hkeep
      obtain ⟨hstored, hage⟩ := getElem?_prune.mp hold
      exact .inr ⟨hstored, hage, hkeep⟩

theorem accept_seen {id : Token} {seen : SeenBatch D}
    (h : (book.accept batch).seenBatches[id]? = some seen) :
    (id = batch.batchId ∧ seen = ⟨BookHash.quoteBatch batch, batch.receivedAt⟩) ∨
      (book.seenBatches[id]? = some seen ∧ book.cutoff batch ≤ seen.acceptedAt) := by
  have hread := getElem?_evictOldest h
  rw [store_seen] at hread
  split at hread
  · rename_i heq
    exact .inl ⟨heq.symm, (Option.some.inj hread).symm⟩
  · exact .inr (getElem?_prune.mp hread)

theorem accept_quotes_size : (book.accept batch).quotes.size ≤ book.maxQuoteEntries :=
  size_evictOldest_le

theorem accept_seen_size : (book.accept batch).seenBatches.size ≤ book.maxBatchIdentityEntries :=
  size_evictOldest_le

end

end QuoteBook

/-! ## A sample feed -/

/-- A provider in good health. -/
def liveState (provider : Provider) (generation : Nat) (observedAt : DateTime) :
    ProviderStateV1 where
  schemaVersion := providerStateSchemaVersion
  provider := provider
  observedAt := observedAt
  operational := .live
  transport := .connected
  authentication := .authenticated
  entitlement := .live
  reasonCodes := [.healthy]
  latencyMs := none
  connectionGeneration := generation

def spx : Token := ⟨"index:spx", by decide, by decide, by decide⟩

/-- A last price of the index, in the global trading hours. -/
def indexQuote (quoteId : Token) (provider : Provider) (receivedAt : DateTime) : QuoteV1 where
  quoteId := quoteId
  provider := provider
  instrumentId := spx
  instrumentKind := .index
  marketSession := .gth
  quality := .live
  option := none
  bid := none
  ask := none
  last := some ⟨⟨6400, by decide⟩, receivedAt, receivedAt⟩

/-- An incremental batch of a live provider with one index quote. -/
def indexBatch (batchId quoteId : Token) (provider : Provider) (generation sequence : Nat)
    (receivedAt : DateTime) : QuoteBatchV1 where
  schemaVersion := quoteBatchSchemaVersion
  batchId := batchId
  provider := provider
  mode := .incremental
  sequence := sequence
  receivedAt := receivedAt
  providerState := liveState provider generation receivedAt
  quotes := [indexQuote quoteId provider receivedAt]

def schwabBatch : Token := ⟨"batch:schwab:1", by decide, by decide, by decide⟩
def schwabQuote : Token := ⟨"quote:schwab:1", by decide, by decide, by decide⟩
def ibkrBatch : Token := ⟨"batch:ibkr:1", by decide, by decide, by decide⟩
def ibkrQuote : Token := ⟨"quote:ibkr:1", by decide, by decide, by decide⟩

end SpxSpark.Core
