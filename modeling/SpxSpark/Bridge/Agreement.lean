import SpxSpark.Bridge.Protocol

/-!
# Agreement — the core follows the cursor of the bridge

What the bridge sent reaches the core's book in the order of the sending, each frame any number of
times.
-/

namespace SpxSpark.Core.QuoteBook

open Std Domain Lib

variable {D : Type} [DecidableEq D] [BookHash D] {book : QuoteBook D} {batch : QuoteBatchV1}

/-- The two answers that say the sender is behind the book. -/
def OutOfOrder (answer : Except QuoteBookError ApplyBatch) : Prop :=
  answer = .ok .stale ∨ ∃ p n, answer = .error (.sequenceCollision p n)

/-- Every cursor is that of a batch fed before. -/
def FedBy (book : QuoteBook D) (past : List QuoteBatchV1) : Prop :=
  ∀ (p : Provider) (cursor : Cursor D), book.cursors[p]? = some cursor →
    ∃ b ∈ past, b.provider = p ∧ cursor = cursorOf b

theorem judge_outOfOrder (h : OutOfOrder (book.judge batch)) :
    ∃ cursor, book.cursors[batch.provider]? = some cursor ∧
      OutOfOrder (cursor.judge batch (BookHash.quoteBatch batch)) := by
  unfold judge at h
  cases hv : batch.validate with
  | error e =>
    rw [hv] at h
    rcases h with h | ⟨p, n, h⟩ <;> cases h
  | ok u =>
    rw [hv] at h
    simp only [Except.mapError, bind, Except.bind] at h
    split at h
    · rcases h with h | ⟨p, n, h⟩ <;> cases h
    · split at h
      · split at h <;> rcases h with h | ⟨p, n, h⟩ <;> cases h
      · split at h
        · rcases h with h | ⟨p, n, h⟩ <;> cases h
        · rename_i cursor hcursor
          exact ⟨cursor, hcursor, h⟩

theorem judge_self : (cursorOf batch : Cursor D).judge batch (BookHash.quoteBatch batch) =
    .ok .duplicate := by
  simp [Cursor.judge, cursorOf]

omit [DecidableEq D] in
theorem position_cursorOf : (cursorOf batch : Cursor D).position = positionOf batch := rfl

/-- **A batch that is a repetition, or ahead of everything fed before, is in order.** -/
theorem FedBy.inOrder {past : List QuoteBatchV1} (h : FedBy book past)
    (hnext : ∀ b ∈ past, b = batch ∨
      (b.provider = batch.provider → positionOf b < positionOf batch)) :
    ¬ OutOfOrder (book.judge batch) := by
  intro hanswer
  obtain ⟨cursor, hcursor, hjudge⟩ := judge_outOfOrder hanswer
  obtain ⟨b, hb, hp, rfl⟩ := h _ _ hcursor
  rcases hnext b hb with rfl | hahead
  · rw [judge_self] at hjudge
    rcases hjudge with hjudge | ⟨p, n, hjudge⟩ <;> cases hjudge
  · have happlied : (cursorOf b : Cursor D).judge batch (BookHash.quoteBatch batch) =
        .ok .applied :=
      Cursor.judge_applied.mpr (position_cursorOf (D := D) ▸ hahead hp)
    rw [happlied] at hjudge
    rcases hjudge with hjudge | ⟨p, n, hjudge⟩ <;> cases hjudge

theorem FedBy.apply {past : List QuoteBatchV1} (h : FedBy book past) (batch : QuoteBatchV1) :
    FedBy (book.apply batch).2 (past ++ [batch]) := by
  intro p cursor hcursor
  by_cases happlied : book.judge batch = .ok .applied
  · rw [apply_applied happlied, accept_cursor] at hcursor
    split at hcursor
    · rename_i hp
      exact ⟨batch, List.mem_append_right _ (List.mem_singleton_self _), hp,
        (Option.some.inj hcursor).symm⟩
    · obtain ⟨b, hb, hrest⟩ := h p cursor hcursor
      exact ⟨b, List.mem_append_left _ hb, hrest⟩
  · rw [apply_other happlied] at hcursor
    obtain ⟨b, hb, hrest⟩ := h p cursor hcursor
    exact ⟨b, List.mem_append_left _ hb, hrest⟩

theorem apply_answer : (book.apply batch).1 = book.judge batch := by
  by_cases happlied : book.judge batch = .ok .applied
  · rw [apply_applied happlied, happlied]
  · rw [apply_other happlied]

theorem FedBy.play_inOrder {batches past : List QuoteBatchV1} (h : FedBy book past)
    (hnext : (past ++ batches).Pairwise fun b b' =>
      b = b' ∨ (b.provider = b'.provider → positionOf b < positionOf b')) :
    ∀ ev ∈ (play QuoteBook.apply book batches).1, ¬ OutOfOrder ev.2 := by
  induction batches generalizing book past with
  | nil =>
    intro ev hev
    cases hev
  | cons batch rest ih =>
    intro ev hev
    rcases List.mem_cons.mp hev with rfl | hev
    · dsimp only
      rw [apply_answer]
      refine h.inOrder fun b hb => ?_
      exact (List.pairwise_append.mp hnext).2.2 b hb batch List.mem_cons_self
    · refine ih (h.apply batch) ?_ ev hev
      rw [List.append_assoc]
      exact hnext

omit [DecidableEq D] in
theorem fresh_fedBy {retention : TimeDelta} {maxQuotes maxBatches : ℕ} {hr hq hb} :
    FedBy (fresh retention maxQuotes maxBatches hr hq hb : QuoteBook D) [] := by
  intro p cursor hcursor
  simp [fresh] at hcursor

end SpxSpark.Core.QuoteBook

namespace SpxSpark.Bridge

open Std Domain Lib SpxSpark.Core

variable {R M F : Type}

theorem batches_pairwise {sent : List (IngressEnvelopeV1 R M F)}
    (h : sent.Pairwise fun e e' => e = e' ∨ Precedes e e') :
    (sent.filterMap (·.batch?)).Pairwise fun b b' =>
      b = b' ∨ (b.provider = b'.provider → positionOf b < positionOf b') := by
  rw [List.pairwise_filterMap]
  refine h.imp ?_
  rintro e e' hcases b hb b' hb'
  rcases hcases with rfl | hprecedes
  · rw [hb, Option.some.injEq] at hb'
    exact .inl hb'
  · exact .inr (hprecedes b b' hb hb')

section Runs

variable [ResearchPayload R] [DeskMapPayload M] [ForecastPayload F] [DecidableEq R] [DecidableEq M]
  [DecidableEq F] [BridgeHash]

theorem run_consistent {maxRejectedAttempts : ℕ} {bridgeId : String}
    {evs : List (BridgeInput × Option Halt)} {s : System R M F}
    (h : Run System.step anyStep (.initial maxRejectedAttempts bridgeId) evs s) : Consistent s :=
  h.invariant (initial_consistent _ _) fun _ input hs _ => step_consistent hs input

/-- **The cursor protocol.** In every run, whatever the file system, the socket and the core answer
and wherever the process is killed: the slot holds at most one frame, which alone is sent until the
core has taken it; the frames of a provider are created at ever larger positions; and a core that is
fed what was sent, each frame any number of times, never finds one of them out of order. -/
theorem bridge_protocol {maxRejectedAttempts : ℕ} {bridgeId : String}
    {evs : List (BridgeInput × Option Halt)} {s : System R M F}
    (h : Run System.step anyStep (.initial maxRejectedAttempts bridgeId) evs s) :
    Orderly s.log (heldFrame s.disk) ∧ (fills s.log).Pairwise Precedes ∧
      (∀ e ∈ fills s.log, e.batch?.isSome) ∧
      ∀ (D : Type) [DecidableEq D] [BookHash D] (retentionSeconds : UInt32)
        (maxQuotes maxBatches : ℕ)
        (book : QuoteBook D) (applied : List (IngressEnvelopeV1 R M F)),
        QuoteBook.new retentionSeconds maxQuotes maxBatches = .ok book →
        Repeats (uses s.log) applied →
        ∀ ev ∈ (play QuoteBook.apply book (applied.filterMap (·.batch?))).1,
          ev.2 ≠ .ok .stale ∧ ∀ p n, ev.2 ≠ .error (.sequenceCollision p n) := by
  have hdurable := (run_consistent h).durable
  refine ⟨hdurable.orderly, hdurable.ascending, ?_, ?_⟩
  · intro e he
    obtain ⟨b, _, hb, _⟩ := hdurable.behind e he
    rw [hb, Option.isSome_some]
  intro D _ _ retentionSeconds maxQuotes maxBatches book applied hnew happlied ev hev
  obtain ⟨retention, hr, hq, hb, rfl⟩ := QuoteBook.new_ok hnew
  have hsent := hdurable.orderly.uses_pairwise hdurable.ascending
  have hpairwise := batches_pairwise (happlied.pairwise (fun e => .inl rfl) hsent)
  have hin := QuoteBook.fresh_fedBy.play_inOrder hpairwise ev hev
  exact ⟨fun hstale => hin (.inl hstale), fun p n hcollision => hin (.inr ⟨p, n, hcollision⟩)⟩

end Runs

/-! ## A run through an outage of the source -/

/-- Digests that tell the two providers apart. -/
instance sampleHash : BridgeHash where
  semanticHash batch := .ofNat (if batch.provider = .schwab then 1 else 2)
  failureFingerprint reason := .ofNat reason.length

/-- A tick that finds no source. -/
def outage : TickInput where
  source := .error "missing"
  now := 0
  clock := fun _ => 0
  connects := true
  otherLanes := .quiet

def outageFrameId : Token :=
  ⟨"message:mirror:schwab:1:1:failure:7000000000000000", by decide, by decide, by decide⟩

def outageAck : CoreAckV1 where
  schemaVersion := coreAckSchemaVersion
  status := .accepted
  messageId := some outageFrameId
  decisionId := none
  reasonCode := .accepted
  disposition := some .applied

/-- The acknowledgement of the first frame is lost and the process killed; the next process resends
the frame, sends that of the other provider and is killed in the middle of it. -/
def outageInputs : List BridgeInput :=
  [.boot [.done, .done],
    .tick outage [.done, .done, .failed true],
    .kill,
    .boot [.done, .done],
    .tick outage [.replied outageAck, .done, .done, .done, .killed true]]

/-- Where the run through the outage ends. -/
def outageSystem : System Empty Empty Empty :=
  (play System.step (.initial 3 "bridge") outageInputs).2

theorem bridge_protocol_outage :
    (uses outageSystem.log).length = 3 ∧ (fills outageSystem.log).length = 2 ∧
      Orderly outageSystem.log (heldFrame outageSystem.disk) ∧
      ∀ ev ∈ (play QuoteBook.apply (QuoteBook.default : QuoteBook BookDocument)
          ((uses outageSystem.log).filterMap (·.batch?))).1,
        ev.2 ≠ .ok .stale ∧ ∀ p n, ev.2 ≠ .error (.sequenceCollision p n) := by
  have hrun : Run System.step anyStep (.initial 3 "bridge")
      (play System.step (.initial 3 "bridge") outageInputs).1 outageSystem :=
    Run.play (allowed_anyStep outageInputs _)
  obtain ⟨horderly, -, -, hcore⟩ := bridge_protocol hrun
  refine ⟨by decide +kernel, by decide +kernel, horderly, ?_⟩
  exact hcore BookDocument 300 4096 4096 _ _ QuoteBook.new_default (.once _)

end SpxSpark.Bridge
