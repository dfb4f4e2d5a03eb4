import SpxSpark.Bridge.Runtime

/-!
# Protocol — the cursor protocol between the bridge and the core

`Durable` is what the file and the log of the slot satisfy at every point where the process can
stop; between the calls the process also works on the state it last wrote.
-/

namespace SpxSpark.Bridge

open Std Domain Lib SpxSpark.Core
open Effect (wp wp_bind wp_get wp_ite wp_modify wp_mono wp_pure)

variable {R M F : Type}

/-! ## What a write does -/

def heldFrame (s : BridgeState R M F) : Option (IngressEnvelopeV1 R M F) :=
  s.pending.map (·.envelope)

/-- No cursor goes back. -/
def Onward (old new : BridgeState R M F) : Prop :=
  ∀ (p : Provider) (c : ProviderCursor), old.providers[p]? = some c →
    ∃ c', new.providers[p]? = some c' ∧ c.position ≤ c'.position

/-- The empty slot is filled with a batch at the provider's new cursor. -/
def FillsAhead (old new : BridgeState R M F) : Prop :=
  old.pending = none ∧ ∃ frame batch c c', new.pending = some frame ∧
    frame.envelope.batch? = some batch ∧ old.providers[batch.provider]? = some c ∧
    new.providers[batch.provider]? = some c' ∧ c.position < c'.position ∧
    positionOf batch = c'.position

/-- What one write may change. -/
structure Moves (old new : BridgeState R M F) : Prop where
  onward : Onward old new
  slot : heldFrame new = heldFrame old ∨ FillsAhead old new

variable {s : BridgeState R M F}

variable {new : BridgeState R M F}

theorem Onward.of_providers (h : new.providers = s.providers) : Onward s new := by
  intro p c hc
  exact ⟨c, h ▸ hc, le_rfl⟩

theorem Moves.aside (hproviders : new.providers = s.providers) (hpending : new.pending = s.pending)
    :
    Moves s new :=
  ⟨.of_providers hproviders, .inl (by rw [heldFrame, heldFrame, hpending])⟩

variable {p : Provider} {c c' : ProviderCursor}

theorem Onward.insert (hc : s.providers[p]? = some c) (hle : c.position ≤ c'.position)
    (hnew : new.providers = s.providers.insert p c') : Onward s new := by
  intro q d hd
  rw [hnew, ExtTreeMap.getElem?_insert]
  split
  · rename_i hpq
    rw [LawfulEqCmp.eq_of_compare hpq, hd, Option.some.injEq] at hc
    exact ⟨c', rfl, hc ▸ hle⟩
  · exact ⟨d, hd, le_rfl⟩

theorem acknowledge_clears {messageId : String} {at' : DateTime}
    (h : s.acknowledge messageId at' = .ok new) : Onward s new ∧ new.pending = none := by
  unfold BridgeState.acknowledge at h
  split at h
  · cases h
  split at h
  · obtain ⟨progress, _, h⟩ := bind_ok.mp h
    split at h
    · cases h
    · rename_i hcursor
      cases h
      refine ⟨.insert hcursor ?_ rfl, rfl⟩
      exact le_rfl
  · cases h

theorem recordRejection_moves {n : ℕ} (h : s.recordRejection = .ok (n, new)) : Moves s new := by
  unfold BridgeState.recordRejection at h
  split at h
  · cases h
  rename_i hpending
  split at h
  · cases h
    exact ⟨.of_providers rfl, .inl (by simp [heldFrame, hpending])⟩
  · cases h

variable {epoch : Option String}

theorem advanceCursor_ahead (h : BridgeState.advanceCursor c epoch = .ok c') :
    c.position < c'.position := by
  unfold BridgeState.advanceCursor at h
  split at h
  · obtain ⟨generation, hgeneration, h⟩ := bind_ok.mp h
    obtain ⟨_, rfl⟩ := checkedSucc_ok.mp hgeneration
    obtain ⟨c₁, hc₁, h⟩ := bind_ok.mp h
    cases hc₁
    obtain ⟨sequence, hsequence, h⟩ := bind_ok.mp h
    cases h
    exact Prod.Lex.toLex_lt_toLex.mpr (.inl (Nat.lt_succ_self _))
  · obtain ⟨c₁, hc₁, h⟩ := bind_ok.mp h
    cases hc₁
    obtain ⟨sequence, hsequence, h⟩ := bind_ok.mp h
    obtain ⟨_, rfl⟩ := checkedSucc_ok.mp hsequence
    cases h
    exact Prod.Lex.toLex_lt_toLex.mpr (.inr ⟨rfl, Nat.lt_succ_self _⟩)

theorem nextCursor_ok {proposed : BridgeState R M F} (h : s.nextCursor p epoch = .ok (c', proposed))
    :
    ∃ c, s.providers[p]? = some c ∧ c.position < c'.position ∧
      proposed = { s with providers := s.providers.insert p c' } := by
  unfold BridgeState.nextCursor at h
  split at h
  · cases h
  rename_i c hc
  obtain ⟨c₁, hc₁, h⟩ := bind_ok.mp h
  cases h
  exact ⟨c, hc, advanceCursor_ahead hc₁, rfl⟩

theorem beginBoot_moves (h : s.beginBoot = .ok new) : Moves s new := by
  unfold BridgeState.beginBoot at h
  obtain ⟨boots, _, h⟩ := bind_ok.mp h
  obtain ⟨_, _, h⟩ := bind_ok.mp h
  cases h
  refine ⟨?_, .inl rfl⟩
  intro p c hc
  refine ⟨BridgeState.bootCursor c, ?_, ?_⟩
  · rw [ExtTreeMap.getElem?_map, hc]
    rfl
  · exact (Prod.Lex.toLex_lt_toLex.mpr (.inl (Nat.lt_succ_self _))).le

variable {batch : QuoteBatchV1}

variable {e : IngressEnvelopeV1 R M F} {fingerprint : String}

theorem setPending_moves {hash : String} {purpose : PendingPurpose} (hc : s.providers[p]? = some c)
    (hlt : c.position < c'.position) (hbatch : e.batch? = some batch) (hp : batch.provider = p)
    (hpos : positionOf batch = c'.position)
    (h : ({ s with providers := s.providers.insert p c' } :
      BridgeState R M F).setPending p fingerprint
      hash purpose e = .ok new) :
    Moves s new := by
  unfold BridgeState.setPending at h
  split at h
  · cases h
  rename_i hempty
  cases h
  subst hp
  refine ⟨.insert hc hlt.le rfl, .inr ⟨hempty, _, batch, c, c', rfl, hbatch, hc, ?_, hlt, hpos⟩⟩
  simp

/-! ## The frames the bridge builds -/

variable {now : DateTime}

theorem mapProviderBatch_ok {source : MappedProvider} {generation sequence : ℕ}
    (h : mapProviderBatch source p generation sequence fingerprint now = .ok batch) :
    batch.provider = p ∧ positionOf batch = toLex (generation, sequence) := by
  unfold mapProviderBatch at h
  obtain ⟨_, h⟩ := require_bind_ok.mp h
  dsimp only at h
  obtain ⟨_, _, h⟩ := bind_ok.mp h
  obtain ⟨batchId, _, h⟩ := bind_ok.mp h
  obtain ⟨_, _, h⟩ := bind_ok.mp h
  cases h
  exact ⟨rfl, rfl⟩

theorem mapSourceFailureBatch_ok {generation sequence : ℕ}
    (h : mapSourceFailureBatch p generation sequence fingerprint now = .ok batch) :
    batch.provider = p ∧ positionOf batch = toLex (generation, sequence) := by
  unfold mapSourceFailureBatch at h
  dsimp only at h
  obtain ⟨batchId, _, h⟩ := bind_ok.mp h
  obtain ⟨_, _, h⟩ := bind_ok.mp h
  cases h
  exact ⟨rfl, rfl⟩

theorem documentBatch_ok {document : SourceDocument}
    (h : documentBatch document p c now = .ok batch) :
    batch.provider = p ∧ positionOf batch = c.position := by
  unfold documentBatch at h
  split at h
  · exact mapSourceFailureBatch_ok h
  · obtain ⟨source, _, h⟩ := bind_ok.mp h
    exact mapProviderBatch_ok h

/-! ## What holds wherever a process can stop -/

/-- Of two batches of one provider the earlier has the smaller position. -/
def Precedes (e e' : IngressEnvelopeV1 R M F) : Prop :=
  ∀ b b' : QuoteBatchV1, e.batch? = some b → e'.batch? = some b' → b.provider = b'.provider →
    positionOf b < positionOf b'

/-- What the file and the log of the slot satisfy. -/
structure Durable (disk : BridgeState R M F) (log : List (SlotEvent (IngressEnvelopeV1 R M F))) :
    Prop where
  orderly : Orderly log (heldFrame disk)
  ascending : (fills log).Pairwise Precedes
  behind : ∀ e ∈ fills log, ∃ b c, e.batch? = some b ∧
    disk.providers[b.provider]? = some c ∧ positionOf b ≤ c.position

/-- The process works on what it last wrote. -/
structure Synced (m : Machine R M F) : Prop where
  same : m.state = m.disk
  durable : Durable m.disk m.log

/-- Wherever a process stops, what it leaves is durable. -/
def Stopped (_ : Halt) (m : Machine R M F) : Prop := Durable m.disk m.log

variable {log : List (SlotEvent (IngressEnvelopeV1 R M F))} {disk : BridgeState R M F}

theorem Durable.send (h : Durable disk log) (hheld : heldFrame disk = some e) :
    Durable disk (log ++ [.used e]) := by
  have hfills : fills (log ++ [SlotEvent.used e]) = fills log := by simp
  constructor
  · have horderly := h.orderly
    rw [hheld] at horderly ⊢
    exact .use e horderly
  · rw [hfills]
    exact h.ascending
  · rw [hfills]
    exact h.behind

theorem Durable.release (h : Durable disk log) (hheld : heldFrame disk = some e) :
    Durable disk (log ++ [.released e]) := by
  have hfills : fills (log ++ [SlotEvent.released e]) = fills log := by simp
  constructor
  · have horderly := h.orderly
    rw [hheld] at horderly ⊢
    exact .release e horderly
  · rw [hfills]
    exact h.ascending
  · rw [hfills]
    exact h.behind

theorem Durable.behind_onward (h : Durable disk log) (honward : Onward disk new) :
    ∀ e ∈ fills log, ∃ b c, e.batch? = some b ∧
      new.providers[b.provider]? = some c ∧ positionOf b ≤ c.position := by
  intro e he
  obtain ⟨b, c, hb, hc, hle⟩ := h.behind e he
  obtain ⟨c', hc', hle'⟩ := honward _ c hc
  exact ⟨b, c', hb, hc', hle.trans hle'⟩

section Commit

variable [DecidableEq R] [DecidableEq M] [DecidableEq F]

theorem slotEvents_same {old : BridgeState R M F} (h : heldFrame new = heldFrame old) :
    slotEvents old new = [] := by
  unfold heldFrame at h
  unfold slotEvents
  cases hold : old.pending with
  | none =>
    rw [hold, Option.map_none, Option.map_eq_none_iff] at h
    rw [h]
  | some frame =>
    rw [hold, Option.map_some, Option.map_eq_some_iff] at h
    obtain ⟨frame', hnew, heq⟩ := h
    rw [hnew]
    simp [heq]

/-- **A write keeps what is durable.** -/
theorem Durable.write (h : Durable disk log) (hmoves : Moves disk new) :
    Durable new (log ++ slotEvents disk new) := by
  have hbehind := h.behind_onward hmoves.onward
  rcases hmoves.slot with hsame | ⟨hempty, frame, batch, c, c', hnew, hbatch, hc, hc', hlt, hpos⟩
  · rw [slotEvents_same hsame, List.append_nil]
    exact ⟨hsame ▸ h.orderly, h.ascending, hbehind⟩
  · have hevents : slotEvents disk new = [.filled frame.envelope] := by
      simp [slotEvents, hempty, hnew]
    have hfills : fills (log ++ slotEvents disk new) = fills log ++ [frame.envelope] := by
      simp [hevents]
    constructor
    · rw [hevents, show heldFrame new = some frame.envelope by simp [heldFrame, hnew]]
      refine .fill _ ?_
      have horderly := h.orderly
      rwa [show heldFrame disk = none by simp [heldFrame, hempty]] at horderly
    · rw [hfills, List.pairwise_append]
      refine ⟨h.ascending, List.pairwise_singleton _ _, ?_⟩
      -- What was put in before is not ahead of the old cursor.
      intro e he e' he' b b' hb hb' hprovider
      rw [List.mem_singleton.mp he', hbatch, Option.some.injEq] at hb'
      subst hb'
      obtain ⟨b₀, c₀, hb₀, hc₀, hle⟩ := h.behind e he
      rw [hb, Option.some.injEq] at hb₀
      subst hb₀
      rw [hprovider, hc, Option.some.injEq] at hc₀
      subst hc₀
      rw [hpos]
      exact hle.trans_lt hlt
    · rw [hfills]
      intro e he
      rcases List.mem_append.mp he with he | he
      · exact hbehind e he
      · rw [List.mem_singleton.mp he]
        exact ⟨batch, c', hbatch, hc', hpos.le⟩

/-- **Clearing the slot right after the core took the frame keeps what is durable.** -/
theorem Durable.clear (h : Durable disk log) (hheld : heldFrame disk = some e)
    (hreleased : log.getLast? = some (.released e)) (honward : Onward disk new)
    (hnone : new.pending = none) : Durable new (log ++ slotEvents disk new) := by
  have hevents : slotEvents disk new = [.cleared e] := by
    unfold heldFrame at hheld
    rw [Option.map_eq_some_iff] at hheld
    obtain ⟨frame, hold, rfl⟩ := hheld
    simp [slotEvents, hold, hnone]
  have hfills : fills (log ++ slotEvents disk new) = fills log := by simp [hevents]
  constructor
  · rw [hevents, show heldFrame new = none by simp [heldFrame, hnone]]
    have horderly := h.orderly
    rw [hheld] at horderly
    exact .clear e horderly hreleased
  · rw [hfills]
    exact h.ascending
  · rw [hfills]
    exact h.behind_onward honward

end Commit

/-! ## Calls -/

section Calls

variable {α : Type} {m : Machine R M F}

theorem wp_liftState {x : Except StateError α} {Q : α → Machine R M F → Prop}
    (h : Durable m.disk m.log) (hQ : ∀ a, x = .ok a → Q a m) :
    wp (liftState x) Q Stopped m := by
  unfold liftState
  cases x with
  | ok a => exact hQ a rfl
  | error e => exact h

theorem wp_liftRuntime {x : Except RuntimeError α} {Q : α → Machine R M F → Prop}
    (h : Durable m.disk m.log) (hQ : ∀ a, x = .ok a → Q a m) :
    wp (liftRuntime x) Q Stopped m := by
  unfold liftRuntime
  cases x with
  | ok a => exact hQ a rfl
  | error e => exact h

theorem wp_nextAnswer {Q : Answer → Machine R M F → Prop} (h : Durable m.disk m.log)
    (hQ : ∀ answer rest, Q answer { m with answers := rest }) :
    wp nextAnswer Q Stopped m := by
  unfold nextAnswer
  rw [wp_bind, wp_get]
  cases m.answers with
  | nil => exact h
  | cons answer rest => exact hQ answer rest

variable [ResearchPayload R] [DeskMapPayload M] [ForecastPayload F]

/-- After an acknowledgement that takes the frame, the log ends with its release. -/
def ReleasedBy (e : IngressEnvelopeV1 R M F) (ack : Option CoreAckV1) (m : Machine R M F) : Prop :=
  ∀ a, ack = some a → takes a = true → m.log.getLast? = some (.released e)

theorem wp_clientSend (h : Synced m) (hheld : heldFrame m.disk = some e) : wp (clientSend e)
      (fun ack m' => Synced m' ∧ heldFrame m'.disk = some e ∧ ReleasedBy e ack m') Stopped m := by
  have hsend := h.durable.send hheld
  have hunknown : ∀ m' : Machine R M F, ReleasedBy e none m' := fun m' a ha => by cases ha
  unfold clientSend
  split
  · exact h.durable
  · rw [wp_bind]
    refine wp_nextAnswer h.durable fun answer rest => ?_
    cases answer with
    | tooLarge => exact h.durable
    | done => exact ⟨⟨h.same, hsend⟩, hheld, hunknown _⟩
    | failed effective =>
      cases effective with
      | true => exact ⟨⟨h.same, hsend⟩, hheld, hunknown _⟩
      | false => exact ⟨⟨h.same, h.durable⟩, hheld, hunknown _⟩
    | killed effective =>
      cases effective with
      | true => exact hsend
      | false => exact h.durable
    | replied ack =>
      dsimp only
      rw [wp_bind, wp_modify, wp_ite]
      refine ⟨fun _ => ?_, fun _ => ⟨⟨h.same, hsend⟩, hheld, hunknown _⟩⟩
      rw [wp_bind, wp_modify, wp_pure]
      unfold recordAck
      split
      · refine ⟨⟨h.same, hsend.release hheld⟩, hheld, fun _ _ _ => ?_⟩
        simp
      · rename_i htakes
        refine ⟨⟨h.same, hsend⟩, hheld, ?_⟩
        rintro a ⟨⟩ ha
        exact absurd ha htakes

variable [DecidableEq R] [DecidableEq M] [DecidableEq F]

theorem wp_persist {Q : Unit → Machine R M F → Prop} (h : Durable m.disk m.log)
    (hwrite : Durable s (m.log ++ slotEvents m.disk s))
    (hQ : ∀ rest, Q () (commitState s { m with answers := rest })) :
    wp (persist s) Q Stopped m := by
  unfold persist
  rw [wp_bind]
  refine wp_liftState h fun _ _ => ?_
  rw [wp_bind]
  refine wp_nextAnswer h fun answer rest => ?_
  cases answer with
  | done => exact hQ rest
  | failed effective =>
    cases effective with
    | true => exact hwrite
    | false => exact h
  | killed effective =>
    cases effective with
    | true => exact hwrite
    | false => exact h
  | tooLarge => exact h
  | replied ack => exact h

theorem persist_synced (h : Durable m.disk m.log)
    (hwrite : Durable s (m.log ++ slotEvents m.disk s)) (hstate : m.state = s) :
    wp (persist s) (fun _ => Synced) Stopped m :=
  wp_persist h hwrite fun _ => ⟨hstate, hwrite⟩

end Calls

/-! ## The runtime -/

section Runtime

/-- What every part of a running process keeps. -/
abbrev Keeps {α : Type} (program : BridgeM R M F α) : Prop :=
  ∀ m, Synced m → wp program (fun _ => Synced) Stopped m

theorem disconnect_keeps : Keeps (disconnect : BridgeM R M F Unit) :=
  fun _ h => ⟨h.same, h.durable⟩

theorem otherLanes_keeps (outcome : LaneOutcome) :
    Keeps (otherLanes outcome : BridgeM R M F Unit) := by
  intro m h
  cases outcome with
  | quiet => exact h
  | disconnected => exact disconnect_keeps m h
  | halted e => exact h.durable

theorem resetSourceFailureProgress_unchanged (h : ¬s.resetSourceFailureProgress.1 = true) :
    s.resetSourceFailureProgress.2 = s := by
  cases s with
  | mk v b n p pending failure c a =>
    cases failure with
    | none => rfl
    | some failure =>
      have hempty : failure.acknowledgedProviders = ∅ := by
        simpa [BridgeState.resetSourceFailureProgress] using h
      cases failure
      subst hempty
      rfl

variable [ResearchPayload R] [DeskMapPayload M] [ForecastPayload F]

theorem envelopeOf_ok (h : envelopeOf batch now = .ok e) : e.batch? = some batch := by
  unfold envelopeOf at h
  obtain ⟨messageId, _, h⟩ := bind_ok.mp h
  dsimp only at h
  obtain ⟨_, _, h⟩ := bind_ok.mp h
  cases h
  rfl

variable [DecidableEq R] [DecidableEq M] [DecidableEq F]

theorem connect_keeps : Keeps (connect : BridgeM R M F Unit) := by
  intro m h
  have hmoves : Moves m.disk m.state.resetSourceFailureProgress.2 := by
    rw [h.same]
    refine .aside ?_ ?_ <;> unfold BridgeState.resetSourceFailureProgress <;> split <;> rfl
  unfold connect
  rw [wp_bind, wp_get]
  dsimp only
  rw [wp_bind, wp_modify, wp_ite]
  constructor
  · intro _
    rw [wp_bind]
    refine wp_mono ?_ (fun _ _ h => h) (persist_synced h.durable (h.durable.write hmoves) rfl)
    exact fun _ t ht => ⟨ht.same, ht.durable⟩
  · intro hunchanged
    refine ⟨?_, h.durable⟩
    exact (resetSourceFailureProgress_unchanged hunchanged).trans h.same

theorem handleAck_keeps {m : Machine R M F} (now : DateTime) {ack : CoreAckV1} (h : Synced m)
    (hheld : heldFrame m.disk = some e) (hreleased : ReleasedBy e (some ack) m) :
    wp (handleAck now ack) (fun _ => Synced) Stopped m := by
  unfold handleAck
  rw [wp_bind, wp_get]
  split
  · rename_i hstatus
    split
    · exact h.durable
    · rename_i hfresh
      rw [wp_bind]
      refine wp_liftState h.durable fun state hstate => ?_
      have hlast := hreleased ack rfl (by simp [takes, hstatus, hfresh])
      obtain ⟨honward, hnone⟩ := h.same ▸ acknowledge_clears hstate
      have hwrite := h.durable.clear hheld hlast honward hnone
      rw [wp_bind, wp_modify, wp_bind]
      refine wp_mono ?_ (fun _ _ h => h) (persist_synced h.durable hwrite rfl)
      exact fun _ t ht => ht
  · rw [wp_bind]
    refine wp_liftState h.durable fun r hstate => ?_
    obtain ⟨attempts, state⟩ := r
    have hmoves : Moves m.disk state := h.same ▸ recordRejection_moves hstate
    rw [wp_bind, wp_modify, wp_bind]
    refine wp_mono ?_ (fun _ _ h => h) (persist_synced h.durable (h.durable.write hmoves) rfl)
    intro _ t ht
    rw [wp_ite]
    exact ⟨fun _ => ht.durable, fun _ => ht⟩
  · exact h
  · exact h.durable

theorem sendPending_keeps (now : DateTime) :
    Keeps (sendPending now : BridgeM R M F SendDisposition) := by
  intro m h
  unfold sendPending
  rw [wp_bind, wp_get]
  split
  · exact h.durable
  rename_i pending hpending
  have hheld : heldFrame m.disk = some pending.envelope := by
    simp [heldFrame, ← h.same, hpending]
  rw [wp_ite]
  refine ⟨fun _ => ?_, fun _ => h⟩
  rw [wp_bind]
  refine wp_mono ?_ (fun _ _ h => h) (wp_clientSend h hheld)
  rintro (_ | ack) t ⟨ht, hheld, hreleased⟩
  · exact ht
  · exact handleAck_keeps now ht hheld hreleased

variable (document : SourceDocument)

theorem completeDocument_keeps (at' : DateTime) :
    Keeps (completeDocument document at' : BridgeM R M F Unit) := by
  intro m h
  have hmoves : Moves m.disk (m.state.completeSource document.fingerprint at') := by
    rw [h.same]
    exact .aside rfl rfl
  unfold completeDocument
  rw [wp_bind, wp_get]
  dsimp only
  rw [wp_bind, wp_modify, wp_bind]
  refine wp_mono ?_ (fun _ _ h => h) (persist_synced h.durable (h.durable.write hmoves) rfl)
  exact fun _ t ht => ⟨ht.same, ht.durable⟩

theorem openBridge_keeps {m : Machine R M F} (h : Durable m.disk m.log) :
    wp (openBridge : BridgeM R M F Unit) (fun _ => Synced) Stopped m := by
  unfold openBridge
  rw [wp_bind, wp_get]
  rw [wp_bind]
  refine wp_liftState h fun _ _ => ?_
  rw [wp_bind]
  refine wp_liftState h fun state hstate => ?_
  have hwrite := h.write (beginBoot_moves hstate)
  rw [wp_bind]
  refine wp_persist h hwrite fun rest => ?_
  rw [wp_bind, wp_modify, wp_bind]
  refine wp_nextAnswer hwrite fun answer rest => ?_
  cases answer with
  | done => exact ⟨rfl, hwrite⟩
  | killed _ => exact hwrite
  | failed _ => exact hwrite
  | tooLarge => exact hwrite
  | replied _ => exact hwrite

variable [BridgeHash]

theorem sendFrame_keeps {m : Machine R M F} {proposed : BridgeState R M F} (h : Synced m)
    (hcursor : m.state.nextCursor p epoch = .ok (c', proposed)) (hp : batch.provider = p)
    (hpos : positionOf batch = c'.position) (fingerprint : String) (purpose : PendingPurpose)
    (now : DateTime) :
    wp (sendFrame proposed batch fingerprint purpose now) (fun _ => Synced) Stopped m := by
  obtain ⟨c, hc, hlt, rfl⟩ := nextCursor_ok hcursor
  unfold sendFrame
  rw [wp_bind]
  refine wp_liftRuntime h.durable fun e he => ?_
  rw [wp_bind]
  refine wp_liftState h.durable fun state hstate => ?_
  have hmoves : Moves m.disk state :=
    h.same ▸ setPending_moves hc hlt (envelopeOf_ok he) hp hpos (hp ▸ hstate)
  rw [wp_bind]
  refine wp_persist h.durable (h.durable.write hmoves) fun rest => ?_
  rw [wp_bind, wp_modify]
  exact sendPending_keeps now _ ⟨rfl, h.durable.write hmoves⟩

theorem processProvider_keeps (now : DateTime) (p : Provider) :
    Keeps (processProvider document now p : BridgeM R M F SendDisposition) := by
  intro m h
  unfold processProvider
  rw [wp_bind, wp_get]
  dsimp only
  rw [wp_bind]
  refine wp_liftState h.durable fun epochChanged _ => ?_
  rw [wp_bind]
  refine wp_liftState h.durable fun r hcursor => ?_
  obtain ⟨c', proposed⟩ := r
  rw [wp_bind]
  refine wp_liftRuntime h.durable fun batch hbatch => ?_
  obtain ⟨hp, hpos⟩ := documentBatch_ok hbatch
  rw [wp_ite]
  exact ⟨fun _ => h, fun _ => sendFrame_keeps h hcursor hp hpos _ _ _⟩

theorem processDocument_keeps (clock : Provider → DateTime) :
    Keeps (processDocument document clock : BridgeM R M F SendDisposition) := by
  intro m h
  unfold processDocument
  rw [wp_bind]
  refine wp_mono ?_ (fun _ _ h => h) (processProvider_keeps document _ _ m h)
  rintro (_ | _) t ht
  · exact processProvider_keeps document _ _ t ht
  · exact ht

theorem failProvider_keeps (fingerprint : String) (now : DateTime) (p : Provider) :
    Keeps (failProvider fingerprint now p : BridgeM R M F SendDisposition) := by
  intro m h
  unfold failProvider
  rw [wp_bind, wp_get, wp_ite]
  refine ⟨fun _ => h, fun _ => ?_⟩
  rw [wp_bind]
  refine wp_liftState h.durable fun r hcursor => ?_
  obtain ⟨c', proposed⟩ := r
  rw [wp_bind]
  refine wp_liftRuntime h.durable fun batch hbatch => ?_
  obtain ⟨hp, hpos⟩ := mapSourceFailureBatch_ok hbatch
  exact sendFrame_keeps h hcursor hp hpos _ _ _

theorem handleSourceFailure_keeps (reason : String) (clock : Provider → DateTime) :
    Keeps (handleSourceFailure reason clock : BridgeM R M F Unit) := by
  intro m h
  have hmoves : ∀ fingerprint, Moves m.disk (m.state.beginSourceFailure fingerprint) := by
    intro fingerprint
    rw [h.same]
    refine .aside ?_ ?_ <;> unfold BridgeState.beginSourceFailure <;> split <;> rfl
  unfold handleSourceFailure
  rw [wp_bind, wp_get]
  dsimp only
  rw [wp_bind, wp_modify, wp_bind]
  refine wp_mono ?_ (fun _ _ h => h) (persist_synced h.durable (h.durable.write (hmoves _)) rfl)
  intro _ t ht
  rw [wp_bind]
  refine wp_mono ?_ (fun _ _ h => h) (failProvider_keeps _ _ _ t ht)
  rintro (_ | _) t ht
  · rw [wp_bind]
    refine wp_mono ?_ (fun _ _ h => h) (failProvider_keeps _ _ _ t ht)
    rintro (_ | _) t ht
    · exact ⟨ht.same, ht.durable⟩
    · exact disconnect_keeps t ht
  · exact disconnect_keeps t ht

theorem handleDocument_keeps (now : DateTime) (clock : Provider → DateTime) :
    Keeps (handleDocument document now clock : BridgeM R M F Unit) := by
  intro m h
  unfold handleDocument
  rw [wp_bind, wp_get]
  split
  · exact handleSourceFailure_keeps _ _ m h
  rw [wp_ite]
  refine ⟨fun _ => handleSourceFailure_keeps _ _ m h, fun _ => ?_⟩
  rw [wp_ite]
  refine ⟨fun _ => h, fun _ => ?_⟩
  rw [wp_ite]
  refine ⟨fun _ => h.durable, fun _ => ?_⟩
  rw [wp_bind]
  refine wp_mono ?_ (fun _ _ h => h) (processDocument_keeps document clock m h)
  rintro (_ | _) t ht
  · exact completeDocument_keeps document _ t ht
  · exact disconnect_keeps t ht

variable (input : TickInput)

theorem tickSource_keeps : Keeps (tickSource input : BridgeM R M F Unit) := by
  intro m h
  unfold tickSource
  dsimp only
  split
  · rw [wp_bind]
    exact wp_mono (fun _ t ht => otherLanes_keeps _ t ht) (fun _ _ h => h)
      (handleDocument_keeps _ _ _ m h)
  · rw [wp_bind]
    exact wp_mono (fun _ t ht => otherLanes_keeps _ t ht) (fun _ _ h => h)
      (handleSourceFailure_keeps _ _ m h)

theorem pendingOrSource_keeps {after : SendDisposition → BridgeM R M F Unit}
    (hafter : ∀ outcome, Keeps (after outcome)) {t : Machine R M F} (ht : Synced t) :
    wp (if t.connected = false then pure ()
      else if t.state.pending.isSome then sendPending input.now >>= after
      else tickSource input) (fun _ => Synced) Stopped t := by
  rw [wp_ite]
  refine ⟨fun _ => ht, fun _ => ?_⟩
  rw [wp_ite]
  refine ⟨fun _ => ?_, fun _ => tickSource_keeps input t ht⟩
  rw [wp_bind]
  exact wp_mono (fun outcome u hu => hafter outcome u hu) (fun _ _ h => h)
    (sendPending_keeps input.now t ht)

theorem tick_keeps : Keeps (tick input : BridgeM R M F Unit) := by
  intro m h
  unfold tick
  rw [wp_bind, wp_get]
  dsimp only
  rw [wp_ite]
  constructor
  · intro _
    rw [wp_ite]
    constructor
    · intro _
      rw [wp_bind]
      refine wp_mono ?_ (fun _ _ h => h) (connect_keeps m h)
      intro _ t ht
      rw [wp_bind, wp_get]
      refine pendingOrSource_keeps input (fun outcome => ?_) ht
      cases outcome with
      | reconnect => exact disconnect_keeps
      | acknowledged => exact tickSource_keeps input
    · intro _
      rw [wp_bind, wp_get]
      refine pendingOrSource_keeps input (fun outcome => ?_) h
      cases outcome with
      | reconnect => exact disconnect_keeps
      | acknowledged => exact tickSource_keeps input
  · intro _
    rw [wp_bind, wp_get]
    refine pendingOrSource_keeps input (fun outcome => ?_) h
    cases outcome with
    | reconnect => exact disconnect_keeps
    | acknowledged => exact tickSource_keeps input

end Runtime

/-! ## Runs of boots, ticks and kills -/

section System

/-- The invariant of the system: the file and the log are durable, and a process that runs works on
what the file says. -/
structure Consistent (s : System R M F) : Prop where
  durable : Durable s.disk s.log
  process : ∀ p, s.process = some p → p.state = s.disk

theorem runIn_consistent {s : System R M F} {process : Process R M F} {answers : List Answer}
    {program : BridgeM R M F Unit}
    (h : wp program (fun _ => Synced) Stopped
      { state := process.state
        connected := process.connected
        needsResync := process.needsResync
        maxRejectedAttempts := s.maxRejectedAttempts
        disk := s.disk
        log := s.log
        answers }) : Consistent (s.runIn process answers program).2 := by
  unfold wp at h
  unfold System.runIn
  dsimp only
  split at h <;> rename_i heq <;> rw [heq]
  · refine ⟨h.durable, ?_⟩
    rintro p ⟨⟩
    exact h.same
  · exact ⟨h, fun p hp => by cases hp⟩

theorem initial_consistent (maxRejectedAttempts : ℕ) (bridgeId : String) :
    Consistent (System.initial maxRejectedAttempts bridgeId : System R M F) :=
  ⟨⟨.nil, .nil, fun e he => by cases he⟩, fun p hp => by cases hp⟩

variable [ResearchPayload R] [DeskMapPayload M] [ForecastPayload F] [DecidableEq R] [DecidableEq M]
  [DecidableEq F] [BridgeHash]

theorem step_consistent {s : System R M F} (h : Consistent s) (input : BridgeInput) :
    Consistent (s.step input).2 := by
  unfold System.step
  split
  · split
    · exact h
    · exact runIn_consistent (openBridge_keeps h.durable)
  · split
    · rename_i process hprocess
      exact runIn_consistent (tick_keeps _ _ ⟨h.process process hprocess, h.durable⟩)
    · exact h
  · exact ⟨h.durable, fun p hp => by cases hp⟩

end System

end SpxSpark.Bridge
