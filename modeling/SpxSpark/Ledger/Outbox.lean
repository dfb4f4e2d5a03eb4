import SpxSpark.Ledger.Operator
import SpxSpark.Ledger.Settlement
import SpxSpark.Lib.Path

/-!
# Outbox — the abstract outbox and its moves

The ledger exists to run one small machine: events are published, each with targets; a target is
claimed, put into transport, settled, and may be cancelled, expired, given up or replayed on the
way.
-/

open SpxSpark.Domain SpxSpark.Lib

namespace SpxSpark.Ledger

variable {D : Type}

/-- What the outbox holds: published events in order, cancellation fences, one row per target, and
the attempts and receipts in the order they were written. -/
structure Outbox (D : Type) where
  events : List (EventRow D)
  fences : List CancellationRow
  targets : String → Option TargetRow
  attempts : List AttemptRow
  receipts : List ReceiptRow

def outbox (s : Ledger D) : Outbox D where
  events := s.events.rows
  fences := s.cancellations.rows
  targets := targetById s
  attempts := s.attempts.rows
  receipts := s.receipts.rows

/-! ## Moves of one target -/

inductive Shift
  | cancel
  | expire
  | reject
  | requeue
  | giveUp
  | claim
  | start (attemptId : String)
  | settle (status : TargetStatus)
  | replay
  | acknowledge
  deriving DecidableEq

/-- The state diagram: which statuses a shift may lead from and to. -/
def Shift.permits : Shift → TargetStatus → TargetStatus → Bool
  | .cancel, a, b => a.unsent && b == .cancelled
  | .expire, a, b => a.unsent && b == .expired
  | .reject, a, b => a == .claimed && b == .deadLetter
  | .requeue, a, b => a == .claimed && b == .pending
  | .giveUp, a, b => a == .inFlight && b == .uncertain
  | .claim, a, b => a == .pending && b == .claimed
  | .start _, a, b => a == .claimed && b == .inFlight
  | .settle c, a, b => a == .inFlight && b == c &&
      [.delivered, .pending, .deadLetter, .uncertain].contains c
  | .replay, a, b => a.replayable && b == .pending
  | .acknowledge, a, b => TargetRow.isFailure a && b == a

/-- The receipt written for `t`, settling `attemptId` if there is one. -/
structure Receipted (t : TargetRow) (attemptId : Option String) (r : ReceiptRow) : Prop where
  targetId : r.targetId = t.targetId
  attemptId : r.attemptId = attemptId

/-- The attempt that the next transport of `t` opens under `id`. -/
structure Opens (t : TargetRow) (id : Uuid) (a : AttemptRow) : Prop where
  attemptId : a.attemptId = id.value
  targetId : a.targetId = t.targetId
  replayGeneration : a.replayGeneration = t.replayGeneration
  attemptNo : a.attemptNo = t.attemptCount + 1

/-- `Shifted now o t k t' as rs`: at `now`, shift `k` rewrites `t` to `t'`, opening the attempts
`as` and writing the receipts `rs`. -/
inductive Shifted (now : DateTime) (o : Outbox D) (t : TargetRow) :
    Shift → TargetRow → List AttemptRow → List ReceiptRow → Prop
  | cancel {reason : String} {r : ReceiptRow} :
      t.status.unsent = true → Receipted t none r →
      Shifted now o t .cancel (t.terminal .cancelled reason now) [] [r]
  | expireClaim {r : ReceiptRow} :
      t.status = .claimed → Receipted t none r →
      Shifted now o t .expire (t.terminal .expired "ttl_expired" now) [] [r]
  | expire {r : ReceiptRow} :
      t.status = .pending → Receipted t none r → Shifted now o t .expire (t.overdue now) [] [r]
  | reject {code : String} {r : ReceiptRow} :
      t.status = .claimed → Receipted t none r →
      Shifted now o t .reject (t.terminal .deadLetter code now) [] [r]
  | requeue {r : ReceiptRow} :
      t.status = .claimed → Receipted t none r → Shifted now o t .requeue (t.requeued now) [] [r]
  | giveUp {a : String} {r : ReceiptRow} :
      t.status = .inFlight → t.currentAttemptId = some a → Receipted t (some a) r →
      Shifted now o t .giveUp (t.terminal .uncertain "worker_lost_after_transport_start" now) [] [r]
  | claim {lease : OwnerLease} {token : Uuid} {claimUntil : DateTime} :
      t.status = .pending → t.attemptCount < t.maxAttempts →
      Shifted now o t .claim (t.claimedBy lease token (t.leaseSequence + 1) now claimUntil) [] []
  | start {id : Uuid} {leaseUntil : DateTime} {a : AttemptRow} :
      t.status = .claimed → t.attemptCount < t.maxAttempts →
      (∀ c ∈ o.fences, c.eventId ≠ t.eventId) → (∀ x ∈ o.attempts, x.attemptId ≠ id.value) →
      Opens t id a → Shifted now o t (.start id.value) (t.started id now leaseUntil) [a] []
  | settle {a : String} {plan : SettlementPlan} {w : SettlementWrite} {r : ReceiptRow} :
      t.status = .inFlight → t.currentAttemptId = some a → dispositionOf plan.status = .ok w →
      Receipted t (some a) r → Shifted now o t (.settle plan.status) (t.settled plan now) [] [r]
  | replay : t.status.replayable = true → Shifted now o t .replay (t.replayed now) [] []
  | acknowledge : TargetRow.isFailure t.status = true →
      Shifted now o t .acknowledge (t.acknowledged now) [] []

/-! ## Moves of the outbox -/

inductive Label (D : Type)
  | event (e : EventRow D)
  | target (t : TargetRow)
  | fence (c : CancellationRow)
  | shift (targetId : String) (k : Shift)

/-- Rewrites one target, appending what the shift wrote. -/
def Outbox.shift (o : Outbox D) (targetId : String) (t : TargetRow) (attempts : List AttemptRow)
    (receipts : List ReceiptRow) : Outbox D :=
  { o with
    targets := Function.update o.targets targetId (some t)
    attempts := o.attempts ++ attempts
    receipts := o.receipts ++ receipts }

/-- A row as `insert_targets` first writes it. -/
def Fresh (t : TargetRow) : Prop :=
  ∃ (eventId : String) (maxAttempts : Nat) (createdAt : DateTime) (x : NotificationTargetV1),
    0 < maxAttempts ∧ t = freshTarget eventId maxAttempts createdAt x

/-- One step of the outbox at `now`. -/
inductive Move (now : DateTime) : Label D → Outbox D → Outbox D → Prop
  | event {o : Outbox D} {e : EventRow D} :
      (∀ c ∈ o.fences, c.eventId ≠ e.eventId) →
      (∀ x ∈ o.events, x.eventId ≠ e.eventId ∧ x.semanticId ≠ e.semanticId) →
      Move now (.event e) o { o with events := o.events ++ [e] }
  | target {o : Outbox D} {t : TargetRow} :
      (∃ e ∈ o.events, e.eventId = t.eventId) → o.targets t.targetId = none → Fresh t →
      Move now (.target t) o { o with targets := Function.update o.targets t.targetId (some t) }
  | fence {o : Outbox D} {c : CancellationRow} :
      (∀ x ∈ o.fences, x.eventId ≠ c.eventId) →
      Move now (.fence c) o { o with fences := o.fences ++ [c] }
  | shift {o : Outbox D} {targetId : String} {k : Shift} {t t' : TargetRow}
      {as : List AttemptRow} {rs : List ReceiptRow} :
      o.targets targetId = some t → Shifted now o t k t' as rs →
      Move now (.shift targetId k) o (o.shift targetId t' as rs)

/-- A path of moves at `now`, with labels in `P`. -/
abbrev Moves (now : DateTime) (P : Label D → Prop) : Outbox D → Outbox D → Prop :=
  Steps (Move now) P

/-! ## What a move does to one target -/

/-- The columns no shift rewrites. -/
structure SameTarget (t t' : TargetRow) : Prop where
  targetId : t'.targetId = t.targetId
  eventId : t'.eventId = t.eventId
  targetKey : t'.targetKey = t.targetKey
  channel : t'.channel = t.channel
  maxAttempts : t'.maxAttempts = t.maxAttempts

theorem SameTarget.refl (t : TargetRow) : SameTarget t t := ⟨rfl, rfl, rfl, rfl, rfl⟩

theorem SameTarget.trans {a b c : TargetRow} (h : SameTarget a b) (h' : SameTarget b c) :
    SameTarget a c :=
  ⟨h'.targetId.trans h.targetId, h'.eventId.trans h.eventId, h'.targetKey.trans h.targetKey,
    h'.channel.trans h.channel, h'.maxAttempts.trans h.maxAttempts⟩

section

variable {now : DateTime} {o o' : Outbox D} {l : Label D} {k : Shift} {t t' : TargetRow}
  {as : List AttemptRow} {rs : List ReceiptRow}

theorem Shifted.same (h : Shifted now o t k t' as rs) : SameTarget t t' := by
  cases h <;> exact ⟨rfl, rfl, rfl, rfl, rfl⟩

theorem Shifted.permits (h : Shifted now o t k t' as rs) : k.permits t.status t'.status = true := by
  cases h with
  | cancel hs => simp [Shift.permits, hs, TargetRow.terminal]
  | expireClaim hs => simp [Shift.permits, hs, TargetRow.terminal, TargetStatus.unsent]
  | expire hs => simp [Shift.permits, hs, TargetRow.overdue, TargetStatus.unsent]
  | reject hs => simp [Shift.permits, hs, TargetRow.terminal]
  | requeue hs => simp [Shift.permits, hs, TargetRow.requeued]
  | giveUp hs => simp [Shift.permits, hs, TargetRow.terminal]
  | claim hs => simp [Shift.permits, hs, TargetRow.claimedBy]
  | start hs => simp [Shift.permits, hs, TargetRow.started]
  | @settle a plan w r hs _ hd =>
    have hc : [TargetStatus.delivered, .pending, .deadLetter, .uncertain].contains plan.status := by
      cases hp : plan.status <;> simp [hp, dispositionOf] at hd ⊢
    simp [Shift.permits, hs, TargetRow.settled] at hc ⊢
    exact hc
  | replay hs => simp [Shift.permits, hs, TargetRow.replayed]
  | acknowledge hs => simp [Shift.permits, hs, TargetRow.acknowledged]

theorem Move.target_cases (h : Move now l o o') (targetId : String) :
    o'.targets targetId = o.targets targetId ∨
      (∃ t, l = .target t ∧ t.targetId = targetId ∧ o.targets targetId = none ∧
        o'.targets targetId = some t ∧ Fresh t ∧ ∃ e ∈ o.events, e.eventId = t.eventId) ∨
      ∃ k t t' as rs, l = .shift targetId k ∧ o.targets targetId = some t ∧
        o'.targets targetId = some t' ∧ Shifted now o t k t' as rs := by
  cases h with
  | event => exact .inl rfl
  | fence => exact .inl rfl
  | @target _ t he hn hf =>
    by_cases hid : t.targetId = targetId
    · subst hid
      exact .inr (.inl ⟨t, rfl, rfl, hn, Function.update_self .., hf, he⟩)
    · exact .inl (Function.update_of_ne (Ne.symm hid) ..)
  | @shift _ id k t t' as rs ht hs =>
    by_cases hid : id = targetId
    · subst hid
      exact .inr (.inr ⟨k, t, t', as, rs, rfl, ht, Function.update_self .., hs⟩)
    · exact .inl (Function.update_of_ne (Ne.symm hid) ..)

variable {targetId : String}

theorem Move.target_step (h : Move now l o o') (ht : o.targets targetId = some t) :
    ∃ t', o'.targets targetId = some t' ∧ SameTarget t t' ∧
      (t' = t ∨ ∃ k, l = .shift targetId k ∧ k.permits t.status t'.status = true) := by
  rcases h.target_cases targetId with he | ⟨u, -, -, hn, -⟩ | ⟨k, u, u', as, rs, hl, hu, hu', hs⟩
  · exact ⟨t, he.trans ht, .refl t, .inl rfl⟩
  · rw [ht] at hn
    cases hn
  · rw [ht] at hu
    cases hu
    exact ⟨u', hu', hs.same, .inr ⟨k, hl, hs.permits⟩⟩

theorem Move.events_sub (h : Move now l o o') : ∀ e ∈ o.events, e ∈ o'.events := by
  intro e he
  cases h with
  | event => exact List.mem_append_left _ he
  | target => exact he
  | fence => exact he
  | shift => exact he

theorem Move.fences_sub (h : Move now l o o') : ∀ c ∈ o.fences, c ∈ o'.fences := by
  intro c hc
  cases h with
  | event => exact hc
  | target => exact hc
  | fence => exact List.mem_append_left _ hc
  | shift => exact hc

theorem Moves.status {P : Label D → Prop} {R : TargetStatus → TargetStatus → Prop}
    (hrefl : ∀ a, R a a) (htrans : ∀ {a b c}, R a b → R b c → R a c)
    (hshift : ∀ k, P (.shift targetId k) → ∀ a b, k.permits a b = true → R a b)
    (h : Moves now P o o') (ht : o.targets targetId = some t) :
    ∃ t', o'.targets targetId = some t' ∧ SameTarget t t' ∧ R t.status t'.status := by
  let I (x : Outbox D) : Prop :=
    ∃ t', x.targets targetId = some t' ∧ SameTarget t t' ∧ R t.status t'.status
  have hI : I o := ⟨t, ht, .refl t, hrefl _⟩
  refine h.keeps (I := I) ?_ hI
  rintro l hl x y hm ⟨u, hu, hsame, hR⟩
  obtain ⟨u', hu', hsame', rfl | ⟨k, rfl, hk⟩⟩ := hm.target_step hu
  · exact ⟨u', hu', hsame, hR⟩
  · exact ⟨u', hu', hsame.trans hsame', htrans hR (hshift k hl _ _ hk)⟩

end

/-! ## Rows and lookups -/

variable {s : Ledger D}

theorem targetById_some {t : TargetRow} (h : targetById s targetId = some t) :
    t ∈ s.targets.rows ∧ t.targetId = targetId := by
  refine ⟨List.mem_of_find?_eq_some h, ?_⟩
  simpa using List.find?_some h

theorem eq_of_targetId {t u : TargetRow} (ht : t ∈ s.targets.rows) (hu : u ∈ s.targets.rows)
    (h : t.targetId = u.targetId) : t = u := by
  refine Table.eq_of_clash ht hu ?_ ?_
  · intro a b
    simp only [targetSchema, BEq.comm]
  · simp [targetSchema, h]

theorem targetById_of_mem {t : TargetRow} (ht : t ∈ s.targets.rows) :
    targetById s t.targetId = some t := by
  cases hf : targetById s t.targetId with
  | none =>
    have := List.find?_eq_none.mp hf t ht
    simp at this
  | some u =>
    obtain ⟨hu, hid⟩ := targetById_some hf
    rw [eq_of_targetId hu ht hid]

theorem outbox_targets {t : TargetRow} :
    (outbox s).targets targetId = some t ↔ t ∈ s.targets.rows ∧ t.targetId = targetId := by
  constructor
  · exact targetById_some
  · rintro ⟨ht, rfl⟩
    exact targetById_of_mem ht

end SpxSpark.Ledger
