import SpxSpark.Ledger.Cancellation
import SpxSpark.Ledger.Fencing

/-!
# StateMachine — the invariants of the delivery outbox

Three invariants of the outbox, each proved once per move: attempts are numbered from one within a
replay generation, an attempt without a receipt is the one its target has in flight, and a held row
names its whole claim.
-/

open SpxSpark.Domain SpxSpark.Lib

namespace SpxSpark.Ledger

open Txn List

variable {D : Type}

/-! ## Attempt numbers -/

/-- The attempt numbers of one replay generation of a target, in the order they were written. -/
def attemptNos (attempts : List AttemptRow) (targetId : String) (generation : Int) : List Int :=
  (attempts.filter fun a => a.targetId = targetId && a.replayGeneration = generation).map
    (·.attemptNo)

/-- `1, 2, …, n`. -/
def upTo (n : Nat) : List Int := (List.range n).map fun i => (i : Int) + 1

theorem upTo_succ (n : Nat) : upTo (n + 1) = upTo n ++ [(n : Int) + 1] := by
  simp [upTo, range_succ]

/-- How the attempts of a target stand to its row: the current generation has as many as the row
counts, earlier ones no more than allowed, later ones none. -/
structure Counted (attempts : List AttemptRow) (id : String) (t : TargetRow) : Prop where
  current : ∃ n : Nat, (n : Int) = t.attemptCount ∧
    attemptNos attempts id t.replayGeneration = upTo n
  bounded : t.attemptCount ≤ t.maxAttempts
  past : ∀ g < t.replayGeneration, ∃ n : Nat, (n : Int) ≤ t.maxAttempts ∧
    attemptNos attempts id g = upTo n
  future : ∀ g, t.replayGeneration < g → attemptNos attempts id g = []

/-- Targets are under their ids, and every attempt is counted by its target. -/
structure Numbered (o : Outbox D) : Prop where
  keyed : ∀ id t, o.targets id = some t → t.targetId = id
  counted : ∀ id t, o.targets id = some t → Counted o.attempts id t
  owned : ∀ a ∈ o.attempts, o.targets a.targetId ≠ none

section

variable {now : DateTime} {o o' : Outbox D} {l : Label D} {k : Shift} {t t' : TargetRow}
  {as : List AttemptRow} {rs : List ReceiptRow} {id : String}

theorem attemptNos_append (xs ys : List AttemptRow) (g : Int) :
    attemptNos (xs ++ ys) id g = attemptNos xs id g ++ attemptNos ys id g := by
  simp [attemptNos]

theorem attemptNos_of_none {xs : List AttemptRow} (h : ∀ a ∈ xs, a.targetId ≠ id) (g : Int) :
    attemptNos xs id g = [] := by
  simp only [attemptNos, map_eq_nil_iff, filter_eq_nil_iff, Bool.and_eq_true,
    decide_eq_true_eq, not_and]
  intro a ha heq
  exact absurd heq (h a ha)

/-- What a shift does to the counters: a start opens the next attempt, a replay a new generation,
and nothing else touches them. -/
theorem Shifted.counters (h : Shifted now o t k t' as rs) :
    (as = [] ∧ t'.attemptCount = t.attemptCount ∧ t'.replayGeneration = t.replayGeneration) ∨
      (as = [] ∧ t'.attemptCount = 0 ∧ t'.replayGeneration = t.replayGeneration + 1) ∨
      ∃ a, as = [a] ∧ a.targetId = t.targetId ∧ a.replayGeneration = t.replayGeneration ∧
        a.attemptNo = t.attemptCount + 1 ∧ t.attemptCount < t.maxAttempts ∧
        t'.attemptCount = t.attemptCount + 1 ∧ t'.replayGeneration = t.replayGeneration := by
  cases h with
  | @start _ _ a _ hlt _ _ hopens =>
    exact .inr (.inr ⟨a, rfl, hopens.targetId, hopens.replayGeneration, hopens.attemptNo, hlt,
      rfl, rfl⟩)
  | replay => exact .inr (.inl ⟨rfl, rfl, rfl⟩)
  | _ => exact .inl ⟨rfl, rfl, rfl⟩

theorem Counted.shifted (hc : Counted o.attempts id t) (hid : t.targetId = id)
    (h : Shifted now o t k t' as rs) : Counted (o.attempts ++ as) id t' := by
  obtain ⟨n, hn, hnos⟩ := hc.current
  have hmax := h.same.maxAttempts
  rcases h.counters with ⟨rfl, hcount, hgen⟩ | ⟨rfl, hcount, hgen⟩ |
    ⟨a, rfl, hat, hag, hano, hlt, hcount, hgen⟩
  · rw [append_nil]
    refine ⟨⟨n, hn.trans hcount.symm, by rw [hgen]; exact hnos⟩, ?_, ?_, ?_⟩
    · rw [hcount, hmax]
      exact hc.bounded
    · rw [hgen, hmax]
      exact hc.past
    · rw [hgen]
      exact hc.future
  · rw [append_nil]
    have hle := hc.bounded
    refine ⟨⟨0, hcount.symm, ?_⟩, ?_, ?_, ?_⟩
    · rw [hgen]
      exact hc.future _ (by omega)
    · omega
    · -- The generation the replay closes joins the past ones.
      intro g hg
      rw [hmax]
      by_cases hgt : g < t.replayGeneration
      · exact hc.past g hgt
      · obtain rfl : g = t.replayGeneration := by omega
        exact ⟨n, by omega, hnos⟩
    · intro g hg
      exact hc.future g (by omega)
  · have hnew : attemptNos [a] id t.replayGeneration = [t.attemptCount + 1] := by
      simp [attemptNos, hat, hid, hag, hano]
    have hother : ∀ g, g ≠ t.replayGeneration → attemptNos [a] id g = [] := by
      intro g hg
      simp [attemptNos, hag, Ne.symm hg]
    refine ⟨⟨n + 1, by omega, ?_⟩, by omega, ?_, ?_⟩
    · rw [hgen, attemptNos_append, hnos, hnew, upTo_succ, hn]
    · intro g hg
      rw [hgen] at hg
      rw [attemptNos_append, hother g (by omega), append_nil, hmax]
      exact hc.past g hg
    · intro g hg
      rw [hgen] at hg
      rw [attemptNos_append, hother g (by omega), append_nil]
      exact hc.future g hg

theorem Counted.other {a : AttemptRow} (hc : Counted o.attempts id t) (ha : a.targetId ≠ id) :
    Counted (o.attempts ++ [a]) id t := by
  have hsame : ∀ g, attemptNos (o.attempts ++ [a]) id g = attemptNos o.attempts id g := by
    intro g
    rw [attemptNos_append, attemptNos_of_none (show ∀ b ∈ [a], b.targetId ≠ id by simpa using ha),
      append_nil]
  exact ⟨by simpa [hsame] using hc.current, hc.bounded, by simpa [hsame] using hc.past,
    by simpa [hsame] using hc.future⟩

theorem target_update {targets : String → Option TargetRow} {x : String}
    (h : Function.update targets id (some t') x = some t) :
    (x = id ∧ t = t') ∨ (x ≠ id ∧ targets x = some t) := by
  by_cases hx : x = id
  · rw [hx, Function.update_self] at h
    exact .inl ⟨hx, (Option.some.inj h).symm⟩
  · rw [Function.update_of_ne hx] at h
    exact .inr ⟨hx, h⟩

theorem Move.numbered (h : Move now l o o') (hn : Numbered o) : Numbered o' := by
  have hmono : ∀ a ∈ o.attempts, o'.targets a.targetId ≠ none := by
    intro a ha
    have hpath : Moves now (fun _ => True) o o' := .single h trivial
    exact hpath.targets_mono (hn.owned a ha)
  cases h with
  | event => exact ⟨hn.keyed, hn.counted, hn.owned⟩
  | fence => exact ⟨hn.keyed, hn.counted, hn.owned⟩
  | @target _ t _ hnone hfresh =>
    have hnos : ∀ g, attemptNos o.attempts t.targetId g = [] := by
      refine attemptNos_of_none fun a ha heq => hn.owned a ha ?_
      rw [heq]
      exact hnone
    obtain ⟨eventId, maxAttempts, createdAt, x, hm, rfl⟩ := hfresh
    refine ⟨?_, ?_, hmono⟩
    · intro y u hu
      rcases target_update hu with ⟨rfl, rfl⟩ | ⟨-, hu⟩
      · rfl
      · exact hn.keyed y u hu
    · intro y u hu
      rcases target_update hu with ⟨rfl, rfl⟩ | ⟨-, hu⟩
      · have hmax : (0 : Int) ≤ maxAttempts := Int.natCast_nonneg maxAttempts
        exact ⟨⟨0, rfl, hnos _⟩, hmax, fun g _ => ⟨0, hmax, hnos g⟩, fun g _ => hnos g⟩
      · exact hn.counted y u hu
  | @shift _ id k t t' as rs ht hs =>
    have hid := hn.keyed id t ht
    have hown : ∀ a ∈ o.attempts ++ as,
        Function.update o.targets id (some t') a.targetId ≠ none := by
      intro a ha
      rcases mem_append.mp ha with ha | ha
      · exact hmono a ha
      · -- A new attempt is of the shifted target.
        rcases hs.counters with ⟨rfl, -⟩ | ⟨rfl, -⟩ | ⟨b, rfl, hb, -⟩
        · cases ha
        · cases ha
        · rw [mem_singleton.mp ha, hb.trans hid, Function.update_self]
          simp
    refine ⟨?_, ?_, hown⟩
    · intro y u hu
      rcases target_update hu with ⟨rfl, rfl⟩ | ⟨-, hu⟩
      · exact hs.same.targetId.trans hid
      · exact hn.keyed y u hu
    · intro y u hu
      rcases target_update hu with ⟨rfl, rfl⟩ | ⟨hne, hu⟩
      · exact (hn.counted _ t ht).shifted hid hs
      · have hc := hn.counted y u hu
        rcases hs.counters with ⟨rfl, -⟩ | ⟨rfl, -⟩ | ⟨a, rfl, ha, -⟩
        · simpa [Outbox.shift] using hc
        · simpa [Outbox.shift] using hc
        · exact hc.other fun heq => hne (heq.symm.trans (ha.trans hid))

/-! ## Unsettled attempts -/

/-- A receipt closes the attempt. -/
def Settled (o : Outbox D) (a : AttemptRow) : Prop :=
  ∃ r ∈ o.receipts, r.attemptId = some a.attemptId

/-- An attempt without a receipt is the one its target has in flight. -/
def Transporting (o : Outbox D) : Prop :=
  ∀ a ∈ o.attempts, ¬ Settled o a →
    ∃ t, o.targets a.targetId = some t ∧ t.status = .inFlight ∧
      t.currentAttemptId = some a.attemptId

/-- What a shift does to the transport of its target: it starts one, it writes the receipt of the
one in flight, or the target was not in flight. -/
theorem Shifted.transport (h : Shifted now o t k t' as rs) : (t.status ≠ .inFlight ∧ as = []) ∨
      (t.status ≠ .inFlight ∧ ∃ a, as = [a] ∧ a.targetId = t.targetId ∧ t'.status = .inFlight ∧
        t'.currentAttemptId = some a.attemptId) ∨
      (as = [] ∧ ∃ r ∈ rs, r.attemptId = t.currentAttemptId) := by
  cases h with
  | cancel hs =>
    refine .inl ⟨fun hfl => ?_, rfl⟩
    rw [hfl] at hs
    cases hs
  | expireClaim hs | expire hs | reject hs | requeue hs | claim hs =>
    exact .inl ⟨by rw [hs]; decide, rfl⟩
  | @start id _ a hs _ _ _ hopens =>
    refine .inr (.inl ⟨by rw [hs]; decide, a, rfl, hopens.targetId, rfl, ?_⟩)
    rw [hopens.attemptId]
    rfl
  | @giveUp a r _ ha hr | @settle a _ _ r _ ha _ hr =>
    exact .inr (.inr ⟨rfl, r, by simp, hr.attemptId.trans ha.symm⟩)
  | replay hs | acknowledge hs =>
    refine .inl ⟨fun hfl => ?_, rfl⟩
    rw [hfl] at hs
    cases hs

theorem Move.transporting (h : Move now l o o') (hn : Numbered o) (ht : Transporting o) :
    Transporting o' := by
  cases h with
  | event => exact ht
  | fence => exact ht
  | @target _ t _ hnone _ =>
    intro a ha hopen
    obtain ⟨u, hu, hst, hcur⟩ := ht a ha hopen
    refine ⟨u, ?_, hst, hcur⟩
    change Function.update o.targets t.targetId (some t) a.targetId = some u
    rw [Function.update_of_ne]
    · exact hu
    · intro heq
      rw [heq, hnone] at hu
      cases hu
  | @shift _ id k t t' as rs hlook hs =>
    have hid := hn.keyed id t hlook
    -- An attempt that was open before is open at another target, or was in flight here.
    have hold : ∀ a ∈ o.attempts, ¬ Settled (o.shift id t' as rs) a →
        ∃ u, o.targets a.targetId = some u ∧ u.status = .inFlight ∧
          u.currentAttemptId = some a.attemptId := by
      intro a ha hopen
      refine ht a ha fun ⟨r, hr, hra⟩ => hopen ⟨r, ?_, hra⟩
      exact mem_append_left _ hr
    intro a ha hopen
    by_cases hx : a.targetId = id
    · refine ⟨t', by rw [hx]; exact Function.update_self .., ?_⟩
      rcases hs.transport with ⟨hnot, rfl⟩ | ⟨hnot, b, rfl, -, hst, hcur⟩ | ⟨rfl, r, hr, hcur⟩
      · obtain ⟨u, hu, hst, -⟩ := hold a (by simpa [Outbox.shift] using ha) hopen
        rw [hx, hlook] at hu
        cases hu
        exact absurd hst hnot
      · rcases mem_append.mp ha with ha | ha
        · obtain ⟨u, hu, hst, -⟩ := hold a ha hopen
          rw [hx, hlook] at hu
          cases hu
          exact absurd hst hnot
        · rw [mem_singleton] at ha
          subst ha
          exact ⟨hst, hcur⟩
      · -- The receipt closes the attempt in flight, which this one would have to be.
        obtain ⟨u, hu, -, hcur'⟩ := hold a (by simpa [Outbox.shift] using ha) hopen
        rw [hx, hlook] at hu
        cases hu
        exact absurd ⟨r, mem_append_right _ hr, hcur.trans hcur'⟩ hopen
    · have ha' : a ∈ o.attempts := by
        rcases mem_append.mp ha with ha | ha
        · exact ha
        · rcases hs.transport with ⟨-, rfl⟩ | ⟨-, b, rfl, hb, -⟩ | ⟨rfl, -⟩
          · cases ha
          · rw [mem_singleton] at ha
            subst ha
            exact absurd (hb.trans hid) hx
          · cases ha
      obtain ⟨u, hu, hst, hcur⟩ := hold a ha' hopen
      refine ⟨u, ?_, hst, hcur⟩
      change Function.update o.targets id (some t') a.targetId = some u
      rw [Function.update_of_ne hx]
      exact hu

/-! ## Held rows -/

theorem RowSound.mono {now' : DateTime} (hle : now ≤ now') (h : RowSound now t) :
    RowSound now' t := by
  refine { h with claimedAt := fun hheld => ?_ }
  obtain ⟨u, hu, hub⟩ := h.claimedAt hheld
  exact ⟨u, hu, hub.trans (micros_mono hle)⟩

theorem RowSound.unheld (hs : t.status.held = false) (hseq : 0 ≤ t.leaseSequence) :
    RowSound now t := by
  have hno : ∀ {p : Prop}, t.status.held = true → p := fun h => by
    rw [hs] at h
    cases h
  refine ⟨hseq, fun h => ?_, hno, hno, hno, hno, hno⟩
  rw [h] at hs
  cases hs

theorem dispositionOf_unheld {status : TargetStatus} {w : SettlementWrite}
    (h : dispositionOf status = .ok w) : status.held = false := by
  cases status <;> first | rfl | cases h

theorem Shifted.sound (h : Shifted now o t k t' as rs) (ht : RowSound now t) : RowSound now t' := by
  cases h with
  | cancel | expireClaim | expire | reject | requeue | giveUp | replay =>
    exact .unheld rfl ht.sequence
  | settle _ _ hd => exact .unheld (dispositionOf_unheld hd) ht.sequence
  | acknowledge hs =>
    refine .unheld ?_ ht.sequence
    change t.status.held = false
    cases hst : t.status <;> first | rfl | (rw [hst] at hs; cases hs)
  | @claim lease token claimUntil hs hlt =>
    have hseq := ht.sequence
    exact {
      sequence := by
        change 0 ≤ t.leaseSequence + 1
        omega
      attemptsLeft := fun _ => hlt
      leaseSequence := fun _ => by
        change 0 < t.leaseSequence + 1
        omega
      owner := fun _ => ⟨Option.some_ne_none _, Option.some_ne_none _⟩
      token := fun _ => ⟨token.value, rfl, sqlNonBlank_token token⟩
      claimedAt := fun _ => ⟨micros now, rfl, le_refl _⟩
      leaseUntil := fun _ => Option.some_ne_none _ }
  | start hs =>
    -- The claim the transport starts from names everything.
    have hheld : t.status.held = true := by
      rw [hs]
      rfl
    exact {
      sequence := ht.sequence
      attemptsLeft := fun hst => by cases hst
      leaseSequence := fun _ => ht.leaseSequence hheld
      owner := fun _ => ht.owner hheld
      token := fun _ => ht.token hheld
      claimedAt := fun _ => ht.claimedAt hheld
      leaseUntil := fun _ => Option.some_ne_none _ }

theorem Move.sound (h : Move now l o o') (hs : Sound now o) : Sound now o' := by
  intro id t' ht'
  rcases h.target_cases id with hsame | ⟨u, -, -, -, hu, hfresh, -⟩
    | ⟨k, u, u', as, rs, -, hu, hu', hk⟩
  · exact hs id t' (hsame ▸ ht')
  · rw [ht'] at hu
    cases hu
    obtain ⟨_, _, _, _, _, rfl⟩ := hfresh
    exact .unheld rfl (le_refl _)
  · rw [ht'] at hu'
    cases hu'
    exact hk.sound (hs id u hu)

end

/-! ## Final statuses -/

/-- Delivered, cancelled or expired. -/
def TargetStatus.absorbing (status : TargetStatus) : Bool :=
  status == .delivered || status == .cancelled || status == .expired

theorem Shift.permits_absorbing {k : Shift} {a b : TargetStatus} (h : k.permits a b = true)
    (ha : a.absorbing = true) : b = a := by
  cases a <;> first | (cases ha; done) | skip
  all_goals
    cases k <;> first | exact absurd h Bool.false_ne_true | exact eq_of_beq h

theorem Shift.permits_replayable {k : Shift} {a b : TargetStatus} (h : k.permits a b = true)
    (hk : k ≠ .replay) (ha : a.replayable = true) : b = a := by
  cases a <;> first | (cases ha; done) | skip
  all_goals
    cases k <;> first | exact absurd h Bool.false_ne_true | exact absurd rfl hk | exact eq_of_beq h

/-- Only `replay_failure` replays. -/
theorem Op.permits_replay {op : Op D} {id : String} (h : op.permits (.shift id .replay)) :
    ∃ draws actor reasonCode now, op = .replayFailure draws id actor reasonCode now := by
  cases op with
  | replayFailure =>
    cases h
    exact ⟨_, _, _, _, rfl⟩
  | _ => simp [Op.permits, Publication, ShiftsBy] at h

/-! ## Runs -/

theorem WritesOwner.ownersBefore {s s' : Ledger D} {role : OwnerRole} {now : DateTime}
    {row : StoredOwner} (h : WritesOwner role now row s s') (hs : OwnersBefore s now) :
    OwnersBefore s' now := by
  have hrows : s'.runtimeOwners = Function.update s.runtimeOwners role (some row) := by
    rw [h.written]
  intro role' r hr
  rw [hrows] at hr
  by_cases hrole : role' = role
  · subst hrole
    rw [Function.update_self] at hr
    cases hr
    rcases h.acquiredAt with hnew | ⟨old, hold, hat⟩
    · exact le_of_eq hnew
    · rw [hat]
      exact hs _ old hold
  · rw [Function.update_of_ne hrole] at hr
    exact hs role' r hr

/-- The operations of the delivery outbox. -/
def Op.delivers : Op D → Bool
  | .claimNext .. | .beginTransport .. | .rejectBeforeTransport .. | .settle ..
  | .recoverStaleClaims .. | .cancelEventAt .. | .acknowledgeFailure .. | .replayFailure .. => true
  | _ => false

/-- What an operation must be given for the columns it writes to pass their CHECKs: a lease that
ends in a later microsecond, and a fence SQLite takes. -/
def Op.meetsChecks : Op D → Prop
  | .claimNext _ _ now duration | .beginTransport _ _ _ now duration => LeaseEndsLater now duration
  | .cancelEventAt _ _ eventId reasonCode cancelledAt _ =>
    CancellationInput eventId reasonCode cancelledAt
  | _ => True

section

variable [DecidableEq D] [CanonicalHash D]

/-- What holds of every ledger and clock that a run reaches. -/
structure Invariant (t : Timed D) : Prop where
  numbered : Numbered (outbox t.ledger)
  transporting : Transporting (outbox t.ledger)
  sound : Sound t.clock (outbox t.ledger)
  owners : OwnersBefore t.ledger t.clock

omit [DecidableEq D] [CanonicalHash D] in
theorem Invariant.migrated (start : DateTime) : Invariant (⟨Ledger.migrated, start⟩ : Timed D) where
  numbered := ⟨fun _ _ h => (nomatch h), fun _ _ h => (nomatch h), fun _ h => (nomatch h)⟩
  transporting := fun _ h => nomatch h
  sound := fun _ _ h => nomatch h
  owners := fun _ _ h => nomatch h

omit [DecidableEq D] [CanonicalHash D] in
theorem Invariant.wait {t : Timed D} {clock : DateTime} (h : Invariant t) (hle : t.clock ≤ clock) :
    Invariant ⟨t.ledger, clock⟩ where
  numbered := h.numbered
  transporting := h.transporting
  sound := fun id r hr => (h.sound id r hr).mono hle
  owners := fun role r hr => (h.owners role r hr).trans (micros_mono hle)

theorem Invariant.step {t : Timed D} {op : Op D} (h : Invariant t) (hnow : Forward t op) :
    Invariant (timedStep t op).2 := by
  have hwait : Invariant ⟨t.ledger, op.now?.getD t.clock⟩ := h.wait hnow
  rcases step_cases t.ledger op with hsame | ⟨out, hdid⟩
  · change Invariant ⟨(Ledger.step t.ledger op).2, _⟩
    rw [hsame]
    exact hwait
  · have hmoves := Op.did_moves t.clock hdid
    have hkeep : Numbered (outbox (Ledger.step t.ledger op).2) ∧
        Transporting (outbox (Ledger.step t.ledger op).2) := by
      refine hmoves.keeps (I := fun o => Numbered o ∧ Transporting o) ?_
        ⟨h.numbered, h.transporting⟩
      rintro l - a b hm ⟨hn, ht⟩
      exact ⟨hm.numbered hn, hm.transporting hn ht⟩
    refine ⟨hkeep.1, hkeep.2, ?_, ?_⟩
    · exact hmoves.keeps (fun _ _ _ _ hm => hm.sound) hwait.sound
    · rcases Op.did_owners t.clock hdid with hsame | ⟨role, row, hw⟩
      · intro role r hr
        exact hwait.owners role r (hsame ▸ hr)
      · exact hw.ownersBefore hwait.owners

theorem TimedRun.invariant {start : DateTime} {t : Timed D}
    {log : List (Op D × Except LedgerError Outcome)}
    (h : TimedRun anyStep ⟨migrated, start⟩ log t) :
    Invariant t :=
  Run.invariant (.migrated start) (fun _ _ hi hok => hi.step hok.1) h

theorem Invariant.quiet {t : Timed D} {op : Op D} {e : LedgerError} (h : Invariant t)
    (hnow : Forward t op) (hdelivers : op.delivers = true) (hmeets : op.meetsChecks)
    (hfails : (timedStep t op).1 = .error e) : NotCheck e := by
  have hwait : Invariant ⟨t.ledger, op.now?.getD t.clock⟩ := h.wait hnow
  have howners := hwait.owners
  have hsound := hwait.sound
  -- Each operation is quiet under its own assumptions, which the invariant gives.
  have hrun : wp op.run (fun _ _ => True) NotCheck t.ledger := by
    cases op <;> simp only [Op.delivers, reduceCtorEq] at hdelivers <;>
      simp only [Op.run, wp_bind, wp_pure]
    case claimNext =>
      exact wp_mono (fun _ _ _ => trivial) (fun _ hq => hq ⟨howners, hmeets⟩) claimNext_spec
    case beginTransport =>
      exact wp_mono (fun _ _ _ => trivial) (fun _ hq => hq ⟨howners, hsound, hmeets⟩)
        beginTransport_spec
    case rejectBeforeTransport =>
      exact wp_mono (fun _ _ _ => trivial) (fun _ hq => hq howners) rejectBeforeTransport_spec
    case settle => exact wp_mono (fun _ _ _ => trivial) (fun _ hq => hq howners) settle_spec
    case recoverStaleClaims =>
      exact wp_mono (fun _ _ _ => trivial) (fun _ hq => hq ⟨howners, hsound⟩)
        recoverStaleClaims_spec
    case cancelEventAt =>
      exact wp_mono (fun _ _ _ => trivial) (fun _ hq => hq ⟨howners, hmeets⟩) cancelEventAt_spec
    case acknowledgeFailure =>
      exact wp_mono (fun _ _ _ => trivial) (fun _ hq => hq trivial) acknowledgeFailure_spec
    case replayFailure =>
      exact wp_mono (fun _ _ _ => trivial) (fun _ hq => hq trivial) replayFailure_spec
  rcases hs : Ledger.step t.ledger op with ⟨e' | out, s'⟩
  · have heq : e' = e := by
      have : (Ledger.step t.ledger op).1 = .error e := hfails
      rw [hs] at this
      exact Except.error.inj this
    subst heq
    exact wp_error hrun (commit_error hs).1
  · have : (Ledger.step t.ledger op).1 = .error e := hfails
    rw [hs] at this
    cases this

/-! ## The state machine -/

/-- Every claim column is set. -/
def TargetRow.claimSet (t : TargetRow) : Prop :=
  t.claimOwnerId ≠ none ∧ t.claimOwnerGeneration ≠ none ∧ t.claimToken ≠ none ∧
    t.claimedAtUs ≠ none ∧ t.leaseUntilUs ≠ none

/-- What the outbox promises of a state and of what may follow it, with `ok` for the operations that
are promised not to violate a CHECK. -/
structure OutboxSafe (ok : Op D → Prop) (t : Timed D) : Prop where
  /-- A target has at most one attempt without a receipt. -/
  oneUnsettled : ∀ a ∈ t.ledger.attempts.rows, ∀ b ∈ t.ledger.attempts.rows,
    a.targetId = b.targetId → ¬ Settled (outbox t.ledger) a → ¬ Settled (outbox t.ledger) b → a = b
  /-- The attempts of a replay generation are `1, …, n`, with `n` within the bound. -/
  numbered : ∀ id r, targetById t.ledger id = some r → ∀ g, ∃ n : Nat,
    (n : Int) ≤ r.maxAttempts ∧ attemptNos t.ledger.attempts.rows id g = upTo n
  /-- Claim and lease columns are set exactly in claimed and in-flight rows. -/
  claims : ∀ id r, targetById t.ledger id = some r →
    (r.status.held = true → r.claimSet) ∧ (r.status.held = false → r.unclaimed = true)
  /-- Delivered, cancelled and expired targets stay so. -/
  absorbing : ∀ log t', TimedRun anyStep t log t' → ∀ id r, targetById t.ledger id = some r →
    r.status.absorbing = true → ∃ r', targetById t'.ledger id = some r' ∧ r'.status = r.status
  /-- Only a replay leads on from dead letter and uncertain. -/
  failed : ∀ op id r, targetById t.ledger id = some r → r.status.replayable = true →
    ∃ r', targetById (timedStep t op).2.ledger id = some r' ∧ (r'.status = r.status ∨
      ∃ draws actor reasonCode now, op = .replayFailure draws id actor reasonCode now)
  /-- No delivery operation violates a CHECK. -/
  checks : ∀ op e, Forward t op → op.delivers = true → ok op →
    (timedStep t op).1 = .error e → NotCheck e

theorem step_target {t : Timed D} (op : Op D) {id : String} {r : TargetRow}
    (h : targetById t.ledger id = some r) :
    ∃ r', targetById (timedStep t op).2.ledger id = some r' ∧
      (r.status.absorbing = true → r'.status = r.status) ∧
      (r.status.replayable = true → r'.status = r.status ∨
        ∃ draws actor reasonCode now, op = .replayFailure draws id actor reasonCode now) := by
  rcases step_cases t.ledger op with hsame | ⟨out, hdid⟩
  · refine ⟨r, ?_, fun _ => rfl, fun _ => .inl rfl⟩
    change targetById (Ledger.step t.ledger op).2 id = some r
    rw [hsame]
    exact h
  · have hmoves := Op.did_moves t.clock hdid
    let replays : Prop := ∃ draws actor reasonCode now,
      op = .replayFailure draws id actor reasonCode now
    let R (a b : TargetStatus) : Prop := (a.absorbing = true → b = a) ∧
      (a.replayable = true → b = a ∨ replays)
    have hrefl : ∀ a, R a a := fun a => ⟨fun _ => rfl, fun _ => .inl rfl⟩
    have htrans : ∀ {a b c}, R a b → R b c → R a c := by
      rintro a b c ⟨hab, hab'⟩ ⟨hbc, hbc'⟩
      refine ⟨fun ha => ?_, fun ha => ?_⟩
      · obtain rfl := hab ha
        exact hbc ha
      · rcases hab' ha with rfl | hr
        · exact hbc' ha
        · exact .inr hr
    have hshift : ∀ k, op.permits (.shift id k) → ∀ a b, k.permits a b = true → R a b := by
      intro k hk a b hp
      refine ⟨Shift.permits_absorbing hp, fun ha => ?_⟩
      by_cases hreplay : k = .replay
      · subst hreplay
        exact .inr (Op.permits_replay hk)
      · exact .inl (Shift.permits_replayable hp hreplay ha)
    obtain ⟨r', hr', -, habs, hfail⟩ := Moves.status hrefl htrans hshift hmoves h
    exact ⟨r', hr', habs, hfail⟩

/-- **The outbox state machine.** Every state that a run reaches is safe. -/
theorem outbox_safe {start : DateTime} {t : Timed D}
    {log : List (Op D × Except LedgerError Outcome)}
    (h : TimedRun anyStep ⟨migrated, start⟩ log t) : OutboxSafe Op.meetsChecks t := by
  have hinv := h.invariant
  refine ⟨?_, ?_, ?_, ?_, ?_, ?_⟩
  · intro a ha b hb heq hopen hopen'
    obtain ⟨u, hu, -, hcur⟩ := hinv.transporting a ha hopen
    obtain ⟨v, hv, -, hcur'⟩ := hinv.transporting b hb hopen'
    rw [heq, hv] at hu
    cases hu
    -- Both are the current attempt, and attempt ids are unique.
    have hid : a.attemptId = b.attemptId := Option.some.inj (hcur.symm.trans hcur')
    refine Table.eq_of_clash ha hb (fun x y => ?_) ?_
    · simp only [attemptSchema]
      grind
    · simp [attemptSchema, hid]
  · intro id r hr g
    have hc := hinv.numbered.counted id r hr
    obtain ⟨n, hn, hnos⟩ := hc.current
    have hbound := hc.bounded
    rcases lt_trichotomy g r.replayGeneration with hlt | rfl | hgt
    · exact hc.past g hlt
    · exact ⟨n, by omega, hnos⟩
    · exact ⟨0, by omega, hc.future g hgt⟩
  · intro id r hr
    have hsound := hinv.sound id r hr
    have hcheck : r.check = true := t.ledger.targets.checked r (targetById_some hr).1
    refine ⟨fun hheld => ?_, fun hnot => ?_⟩
    · obtain ⟨token, htoken, -⟩ := hsound.token hheld
      obtain ⟨u, hu, -⟩ := hsound.claimedAt hheld
      refine ⟨(hsound.owner hheld).1, (hsound.owner hheld).2, ?_, ?_, hsound.leaseUntil hheld⟩
      · rw [htoken]
        simp
      · rw [hu]
        simp
    · simp only [TargetRow.check, Bool.and_eq_true] at hcheck
      have hcolumns := hcheck.1.2
      unfold TargetRow.statusColumns at hcolumns
      cases hst : r.status <;> rw [hst] at hnot <;> first | (cases hnot; done) | skip
      all_goals
        simp only [hst, Bool.and_eq_true] at hcolumns
        tauto
  · intro log' t' hrun id r hr habs
    refine Run.invariant (I := fun t' => ∃ r', targetById t'.ledger id = some r' ∧
      r'.status = r.status) ⟨r, hr, rfl⟩ ?_ hrun
    rintro u op ⟨v, hv, hst⟩ -
    obtain ⟨w, hw, hkeep, -⟩ := step_target op hv
    exact ⟨w, hw, (hkeep (hst ▸ habs)).trans hst⟩
  · intro op id r hr hfailed
    obtain ⟨r', hr', -, hfail⟩ := step_target op hr
    exact ⟨r', hr', hfail hfailed⟩
  · intro op e hnow hdelivers hmeets hfails
    exact hinv.quiet hnow hdelivers hmeets hfails

end

theorem outbox_safe_inTransport :
    let t := (play timedStep (⟨migrated, 0⟩ : Timed Document) inTransport).2
    (targetById t.ledger "event-setup:bark").map (·.status) = some .inFlight ∧
      OutboxSafe Op.meetsChecks t := by
  intro t
  have htrace : Allowed timedStep (fun t op => Forward t op ∧ anyStep t.ledger op)
        (⟨migrated, 0⟩ : Timed Document) inTransport ∧
      (targetById t.ledger "event-setup:bark").map (·.status) = some .inFlight := by
    decide +kernel
  exact ⟨htrace.2, outbox_safe (Run.play htrace.1)⟩

/-- A claim for one nanosecond: the guard compares instants, the CHECK whole microseconds. -/
def briefClaim : Op Document := .claimNext (drawsOf setupEvent) deliveryLease 3000000000 1

/-- Without its inputs a claim violates a CHECK. -/
theorem outbox_unsafe :
    ¬ ∀ (start : DateTime) (log : List (Op Document × Except LedgerError Outcome))
      (t : Timed Document), TimedRun anyStep ⟨migrated, start⟩ log t →
        OutboxSafe (fun _ => True) t := by
  intro hsafe
  let t := (play timedStep (⟨migrated, 0⟩ : Timed Document) (inTransport.take 3)).2
  have htrace : Allowed timedStep (fun t op => Forward t op ∧ anyStep t.ledger op)
        (⟨migrated, 0⟩ : Timed Document) (inTransport.take 3) ∧ Forward t briefClaim ∧
      (timedStep t briefClaim).1 = .error (.sqlite (.constraint .check)) := by
    decide +kernel
  obtain ⟨hrun, hnow, hfails⟩ := htrace
  exact (hsafe 0 _ t (Run.play hrun)).checks briefClaim _ hnow rfl trivial hfails (.inl rfl)

end SpxSpark.Ledger
