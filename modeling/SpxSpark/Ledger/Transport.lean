import SpxSpark.Ledger.Notifications

/-!
# Transport — what the delivery owner and the operator do to the outbox

Each operation is a short path: recovery requeues or gives up, a claim expires what is overdue and
claims one target, a transport starts or ends early, a settlement closes an attempt.
-/

open SpxSpark.Domain SpxSpark.Lib

namespace SpxSpark.Ledger

open Txn List
open TargetRow
  (acknowledged check claimColumns claimedBy overdue pinned release replayed requeued settled
    statusColumns terminal_check unclaimed)

variable {D : Type} {s s' : Ledger D} {G : Prop} {now : DateTime}

def TargetStatus.held (status : TargetStatus) : Bool := status == .claimed || status == .inFlight

/-- What every statement leaves true of a target row, beyond its CHECK: a held row names its whole
claim, made no later than `now`. -/
structure RowSound (now : DateTime) (t : TargetRow) : Prop where
  sequence : 0 ≤ t.leaseSequence
  attemptsLeft : t.status = .claimed → t.attemptCount < t.maxAttempts
  leaseSequence : t.status.held = true → 0 < t.leaseSequence
  owner : t.status.held = true → t.claimOwnerId ≠ none ∧ t.claimOwnerGeneration ≠ none
  token : t.status.held = true → ∃ token, t.claimToken = some token ∧ sqlNonBlank token = true
  claimedAt : t.status.held = true → ∃ u, t.claimedAtUs = some u ∧ u ≤ micros now
  leaseUntil : t.status.held = true → t.leaseUntilUs ≠ none

/-- Every target row is sound. -/
def Sound (now : DateTime) (o : Outbox D) : Prop :=
  ∀ id t, o.targets id = some t → RowSound now t

/-- A label that shifts some target by one of `ks`. -/
def ShiftsBy (ks : List Shift) (l : Label D) : Prop := ∃ id, ∃ k ∈ ks, l = .shift id k

/-! ## Recovery -/

variable {t : TargetRow}

theorem TargetRow.requeued_check (hc : t.check = true) (hs : t.status = .claimed)
    (hleft : t.attemptCount < t.maxAttempts) (hnow : 0 < micros now) :
    (t.requeued now).check = true := by
  simp only [check, Bool.and_eq_true, decide_eq_true_eq] at hc ⊢
  simp_all [requeued, release, statusColumns, unclaimed,
    TargetRow.isFailure]

variable {draws : Draws}

theorem wp_recoverTarget {Q : RecoverySummary → Ledger D → Prop} {summary : RecoverySummary}
    (hrow : targetById s t.targetId = some t) (hheld : t.status.held = true)
    (hnow : G → 0 < micros now) (hsound : G → RowSound now t)
    (hok : ∀ summary' s' k t', k ∈ [Shift.requeue, .giveUp] →
      Move now (.shift t.targetId k) (outbox s) (outbox s') → s'.runtimeOwners = s.runtimeOwners →
      (outbox s').targets = Function.update (outbox s).targets t.targetId (some t') →
      Q summary' s') : wp (recoverTarget draws now summary t) Q (Quiet G) s := by
  have hthis : ∀ r, targetById s t.targetId = some r → r = t := by
    intro r hr
    rw [hrow] at hr
    exact (Option.some.inj hr).symm
  cases hst : t.status with
  | claimed =>
    simp only [recoverTarget, hst, wp_bind, wp_ensure, wp_pure]
    refine ⟨fun _ => ?_, fun _ => by simp [Quiet, NotCheck, FailsOnCheck]⟩
    refine wp_shiftWith .requeue (draws.receiptId t.targetId) .claimRecovered
      (fun _ => pinned) (fun _ => ⟨rfl, rfl, rfl, rfl, rfl⟩) hnow ?_ ?_ ?_ ?_ fun _ h => h
    · intro r hr _ hc hG
      obtain rfl := hthis r hr
      exact TargetRow.requeued_check hc hst ((hsound hG).attemptsLeft hst) (hnow hG)
    · intro r rr hr _ hrr
      obtain rfl := hthis r hr
      exact .requeue hst hrr
    · intro r st' _ _ hm ho hupd
      exact hok _ st' .requeue _ (by simp) hm ho hupd
    · intro hno
      have := hno t hrow
      simp [hst] at this
  | inFlight =>
    simp only [recoverTarget, hst, wp_bind, wp_ofOption, wp_pure]
    refine ⟨fun a ha => ?_, fun _ => by simp [Quiet, NotCheck, FailsOnCheck]⟩
    refine wp_shiftWith .giveUp (draws.receiptId t.targetId)
      (.transportUncertain a "worker_lost_after_transport_start") (fun _ => pinned)
      (fun _ => ⟨rfl, rfl, rfl, rfl, rfl⟩) hnow ?_ ?_ ?_ ?_ fun _ h => h
    · intro r hr _ hc hG
      obtain rfl := hthis r hr
      refine terminal_check hc ?_ (hnow hG) (.inr (.inr (.inr rfl)))
      rw [hst]
      rfl
    · intro r rr hr _ hrr
      obtain rfl := hthis r hr
      exact .giveUp hst ha hrr
    · intro r st' _ _ hm ho hupd
      exact hok _ st' .giveUp _ (by simp) hm ho hupd
    · intro hno
      have := hno t hrow
      simp [hst] at this
  | _ =>
    rw [hst] at hheld
    cases hheld

variable {lease : OwnerLease}

theorem recoverStaleClaims_spec : wp (recoverStaleClaims draws lease now)
      (fun _ s' => Advance now (ShiftsBy [.requeue, .giveUp]) s s')
      (Quiet (OwnersBefore s now ∧ Sound now (outbox s))) s := by
  simp only [recoverStaleClaims, wp_bind, wp_requireOwner, wp_get]
  refine ⟨fun _ hlease => ?_, ?_, ?_⟩
  · let I (todo : List TargetRow) (_ : RecoverySummary) (st : Ledger D) : Prop :=
      Advance now (ShiftsBy [.requeue, .giveUp]) s st ∧
        todo.Pairwise (fun a b => a.targetId ≠ b.targetId) ∧
        ∀ t ∈ todo, targetById s t.targetId = some t ∧ targetById st t.targetId = some t ∧
          t.status.held = true
    have hstart : I (staleTargets s now) ⟨0, 0⟩ s := by
      refine ⟨.refl s, ?_, ?_⟩
      · refine (s.targets.distinct.filter _).imp ?_
        intro a b hab
        simp only [targetSchema, Bool.or_eq_false_iff, beq_eq_false_iff_ne] at hab
        exact hab.1
      · intro t ht
        simp only [staleTargets, mem_filter, Bool.and_eq_true] at ht
        have hrow := targetById_of_mem ht.1
        exact ⟨hrow, hrow, by simpa [TargetStatus.held] using ht.2.1⟩
    refine wp_mono (fun _ _ h => h.1) (fun _ h => h) (wp_foldlM I ?_ hstart)
    rintro t todo summary st ⟨hadv, hdist, hrows⟩
    rw [pairwise_cons] at hdist
    obtain ⟨hrow₀, hrow, hheld⟩ := hrows t (mem_cons_self ..)
    refine wp_recoverTarget hrow hheld (fun hG => holdsRole_now hlease hG.1)
      (fun hG => hG.2 _ t hrow₀) ?_
    intro _ st' k t' hk hm ho hupd
    refine ⟨hadv.trans (.single ⟨_, k, hk, rfl⟩ hm ho), hdist.2, ?_⟩
    intro u hu
    obtain ⟨hu₀, hu₁, huheld⟩ := hrows u (mem_cons_of_mem _ hu)
    refine ⟨hu₀, ?_, huheld⟩
    have : (outbox st').targets u.targetId = (outbox st).targets u.targetId := by
      rw [hupd, Function.update_of_ne (hdist.1 u hu).symm]
    exact this.trans hu₁
  all_goals simp [Quiet, NotCheck, FailsOnCheck]

/-! ## Expiry and claims -/

theorem TargetRow.overdue_check (hc : t.check = true) (hs : t.status = .pending)
    (hnow : 0 < micros now) : (t.overdue now).check = true := by
  simp only [check, Bool.and_eq_true, decide_eq_true_eq] at hc ⊢
  simp_all [overdue, statusColumns, unclaimed, TargetRow.isFailure]

variable {Q : Unit → Ledger D → Prop}

theorem wp_expireDue (hnow : G → 0 < micros now)
    (hok : ∀ s', Advance now (ShiftsBy [.expire]) s s' → Q () s') :
    wp (expireDue draws now) Q (Quiet G) s := by
  simp only [expireDue, wp_bind, wp_get]
  let I (_ : List TargetRow) (st : Ledger D) : Prop := Advance now (ShiftsBy [.expire]) s st
  refine wp_mono (fun _ st h => hok st h) (fun _ h => h) (wp_forM I ?_ (.refl s))
  intro t todo st hadv
  refine wp_shift .expire _ _ ?_ ?_ hnow ?_ ?_ ?_ (by simp [NotCheck, FailsOnCheck])
  · exact fun _ => pinned
  · exact fun _ => ⟨rfl, rfl, rfl, rfl, rfl⟩
  · intro r _ hr hc hG
    simp only [Bool.and_eq_true, decide_eq_true_eq] at hr
    exact TargetRow.overdue_check hc hr.2 (hnow hG)
  · intro r rr _ hr hrr
    simp only [Bool.and_eq_true, decide_eq_true_eq] at hr
    exact .expire hr.2 hrr
  · intro r st' _ _ hm ho _
    exact hadv.trans (.single ⟨_, .expire, by simp, rfl⟩ hm ho)

theorem selectDue_mem {e : EventRow D} (h : selectDue s now = some (t, e)) :
    t ∈ s.targets.rows ∧ t.status = .pending ∧ t.attemptCount < t.maxAttempts := by
  have hmem : (t, e) ∈ dueTargets s now := by
    have := mem_of_mem_head? (Option.mem_def.mpr h)
    exact (mem_insertionSort _).mp this
  simp only [dueTargets, mem_filter, mem_filterMap, Option.map_eq_some_iff,
    Bool.and_eq_true, decide_eq_true_eq] at hmem
  obtain ⟨⟨u, hu, e', -, heq⟩, hp⟩ := hmem
  cases heq
  exact ⟨hu, hp.1.1.1, hp.1.2⟩

theorem TargetRow.claimedBy_check {token : Uuid} {claimUntil : DateTime} (hc : t.check = true)
    (hs : t.status = .pending) (hgen : 0 < lease.generation) (hnow : 0 < micros now)
    (huntil : micros now < micros claimUntil) :
    (t.claimedBy lease token (t.leaseSequence + 1) now claimUntil).check = true := by
  simp only [check, Bool.and_eq_true, decide_eq_true_eq] at hc ⊢
  simp_all [claimedBy, statusColumns, unclaimed,
    claimColumns, TargetRow.isFailure]
  omega

/-- The lease a duration asks for ends in a later microsecond than it starts. -/
def LeaseEndsLater (now : DateTime) (duration : TimeDelta) : Prop :=
  micros now < micros (now + duration)

theorem claimNext_spec {claimDuration : TimeDelta} : wp (claimNext draws lease now claimDuration)
      (fun _ s' => Advance now (ShiftsBy [.expire, .claim]) s s')
      (Quiet (OwnersBefore s now ∧ LeaseEndsLater now claimDuration)) s := by
  simp only [claimNext, wp_bind, wp_ofOption, wp_ensure, wp_requireOwner]
  refine ⟨fun claimUntil huntil => ⟨fun _ => ⟨fun _ hlease => ?_, ?_, ?_⟩, ?_⟩, ?_⟩
  · have hnow : (OwnersBefore s now ∧ LeaseEndsLater now claimDuration) → 0 < micros now :=
      fun hG => holdsRole_now hlease hG.1
    refine wp_expireDue hnow fun st hadv => ?_
    have hadv' : Advance now (ShiftsBy [.expire, .claim]) s st := by
      refine hadv.mono ?_
      rintro l ⟨id, k, hk, rfl⟩
      exact ⟨id, k, by simp_all, rfl⟩
    simp only [wp_get]
    split
    · exact hadv'
    · rename_i t e hsel
      obtain ⟨hmem, hpend, hleft⟩ := selectDue_mem hsel
      have hrow := targetById_of_mem hmem
      have hthis : ∀ r, targetById st t.targetId = some r → r = t := by
        intro r hr
        rw [hrow] at hr
        exact (Option.some.inj hr).symm
      rw [wp_bind]
      refine wp_updateTargets t.targetId ?_ ?_ ?_ ?_ ?_
      · exact fun _ => pinned
      · exact fun _ => ⟨rfl, rfl, rfl, rfl, rfl⟩
      · intro _
        simp [Quiet, NotCheck, FailsOnCheck]
      · intro r tbl hr _ hupd
        obtain rfl := hthis r hr
        have hmove : Move now (.shift r.targetId .claim) (outbox st)
            (outbox { st with targets := tbl }) := by
          have hout : outbox { st with targets := tbl } = (outbox st).shift r.targetId
              (r.claimedBy lease draws.claimToken (r.leaseSequence + 1) now claimUntil) [] [] := by
            simp [outbox, Outbox.shift, ← hupd]
          rw [hout]
          exact .shift hr (.claim hpend hleft)
        have hdone : Advance now (ShiftsBy [.expire, .claim]) s { st with targets := tbl } :=
          hadv'.trans (.single ⟨_, .claim, by simp, rfl⟩ hmove rfl)
        simp only [claimedDelivery, wp_bind, wp_ensure, wp_ofExcept, wp_liftDomain, wp_pure]
        refine ⟨fun _ => ⟨fun _ _ => ⟨fun _ _ => ⟨fun _ => hdone, ?_⟩, ?_⟩, ?_⟩, fun h => ?_⟩
        · simp [Quiet, NotCheck, FailsOnCheck]
        · simp [Quiet, NotCheck, FailsOnCheck]
        · intro err herr hG
          unfold parseClaimedIntent at herr
          split at herr <;> (try split at herr) <;> cases herr <;> simp [NotCheck, FailsOnCheck]
        · exact absurd trivial h
      · intro r hr _ hc hbad hG
        obtain rfl := hthis r hr
        have huntil' : micros now < micros claimUntil := by
          rw [checkedAddSigned_eq huntil]
          exact hG.2
        rw [TargetRow.claimedBy_check hc hpend (holdsRole_generation hlease)
          (hnow hG) huntil'] at hbad
        cases hbad
  all_goals simp [Quiet, NotCheck, FailsOnCheck]

/-! ## Transport -/

variable {targetId : String}

variable {status : TargetStatus}

theorem transportState_some {expiresAtUs : Int} {cancelled : Bool}
    (h : transportState s targetId = some (status, expiresAtUs, cancelled)) :
    ∃ t, targetById s targetId = some t ∧ t.status = status ∧ sqlNonBlank t.eventId = true ∧
      (cancelled = false → ∀ c ∈ s.cancellations.rows, c.eventId ≠ t.eventId) := by
  simp only [transportState, Option.bind_eq_bind, Option.bind_eq_some_iff, Option.pure_def,
    Option.some.injEq, Prod.mk.injEq] at h
  obtain ⟨t, ht, e, he, hst, -, hcan⟩ := h
  have hev : e.eventId = t.eventId := by
    simpa using find?_some he
  refine ⟨t, ht, hst, ?_, ?_⟩
  · have hc := s.events.checked e (mem_of_find?_eq_some he)
    simp only [eventSchema, EventRow.check, Bool.and_eq_true] at hc
    rw [← hev]
    tauto
  · rintro rfl c hc
    have := any_eq_false.mp hcan c hc
    rw [← hev]
    simpa using this

variable {reasonCode : String}

variable {handle : ClaimHandle}

theorem wp_terminalWithoutTransport {receipt : Receipt} (k : Shift) (hnow : G → 0 < micros now)
    (hs : status = .deadLetter ∨ status = .cancelled ∨ status = .expired)
    (hshift : ∀ t rr, t.status = .claimed → Receipted t receipt.attemptId rr →
      Shifted now (outbox s) t k (t.terminal status reasonCode now) [] [rr])
    (hok : ∀ s', Move now (.shift handle.targetId k) (outbox s) (outbox s') →
      s'.runtimeOwners = s.runtimeOwners → Q () s') :
    wp (terminalWithoutTransport draws handle now status reasonCode receipt) Q (Quiet G) s := by
  refine wp_shift k _ _ ?_ ?_ hnow ?_ ?_ ?_ (by simp [NotCheck, FailsOnCheck])
  · intro r hr
    simp only [Bool.and_eq_true, decide_eq_true_eq] at hr
    exact hr.1.1.1
  · exact fun _ => ⟨rfl, rfl, rfl, rfl, rfl⟩
  · intro r _ hr hc hG
    simp only [Bool.and_eq_true, decide_eq_true_eq] at hr
    refine terminal_check hc ?_ (hnow hG) ?_
    · rw [hr.1.1.2]
      rfl
    · tauto
  · intro r rr _ hr hrr
    simp only [Bool.and_eq_true, decide_eq_true_eq] at hr
    exact hshift r rr hr.1.1.2 hrr
  · intro r st' _ _ hm ho _
    exact hok st' hm ho

variable {leaseUntil : DateTime}

theorem TargetRow.started_check {id : Uuid} (hc : t.check = true) (hs : t.status = .claimed)
    (hleft : t.attemptCount < t.maxAttempts) (hnow : 0 < micros now) (hsound : RowSound now t)
    (huntil : micros now < micros leaseUntil) : (t.started id now leaseUntil).check = true := by
  obtain ⟨u, hu, hle⟩ := hsound.claimedAt (by rw [hs]; rfl)
  simp only [check, Bool.and_eq_true, decide_eq_true_eq] at hc ⊢
  simp_all [TargetRow.started, statusColumns, claimColumns, TargetRow.isFailure]
  omega

theorem find_inFlight (ht : targetById s targetId = some t) (hs : t.status = .inFlight) :
    (s.targets.rows.find? fun r => r.targetId = targetId && r.status = .inFlight) = some t := by
  obtain ⟨hmem, hid⟩ := targetById_some ht
  cases hf : s.targets.rows.find? fun r => r.targetId = targetId && r.status = .inFlight with
  | none =>
    have := find?_eq_none.mp hf t hmem
    simp [hid, hs] at this
  | some u =>
    have hu := find?_some hf
    simp only [Bool.and_eq_true, decide_eq_true_eq] at hu
    rw [eq_of_targetId (mem_of_find?_eq_some hf) hmem (hu.1.trans hid.symm)]

variable {claimed : ClaimedDelivery}

theorem attemptRow_check {id : Uuid} {r : TargetRow} (hsound : RowSound now r)
    (hst : r.status = .claimed) (hc : r.check = true)
    (htok : r.claimToken = some claimed.handle.claimToken)
    (hseq : r.leaseSequence = claimed.handle.leaseSequence)
    (hno : r.attemptCount + 1 = claimed.attemptNo) (hgen : 0 < lease.generation)
    (hnow : 0 < micros now) (hkey : sqlNonBlank claimed.idempotencyKey = true) :
    attemptSchema.check (attemptRow id lease claimed now (r.started id now leaseUntil)) = true := by
  obtain ⟨tok, htok', hblank⟩ := hsound.token (by rw [hst]; rfl)
  have hseq' := hsound.leaseSequence (by rw [hst]; rfl)
  have htoken : sqlNonBlank claimed.handle.claimToken = true := by
    rw [htok] at htok'
    cases htok'
    exact hblank
  simp only [check, Bool.and_eq_true, decide_eq_true_eq] at hc
  simp only [attemptSchema, attemptRow, TargetRow.started, sqlNonBlank_token, htoken, hkey,
    Bool.and_eq_true, decide_eq_true_eq]
  refine ⟨⟨⟨⟨⟨⟨⟨trivial, trivial⟩, hgen⟩, ?_⟩, ?_⟩, ?_⟩, trivial⟩, hnow⟩
  all_goals omega

theorem wp_startTransportAttempt {Q : String → Ledger D → Prop} (hgen : 0 < lease.generation)
    (hnow : G → 0 < micros now) (hsound : G → Sound now (outbox s))
    (huntil : G → micros now < micros leaseUntil)
    (hevent : ∀ t, targetById s claimed.handle.targetId = some t → sqlNonBlank t.eventId = true)
    (hfence : ∀ t, targetById s claimed.handle.targetId = some t →
      ∀ c ∈ s.cancellations.rows, c.eventId ≠ t.eventId)
    (hok : ∀ s', Move now (.shift claimed.handle.targetId (.start draws.attemptId.value))
        (outbox s) (outbox s') → s'.runtimeOwners = s.runtimeOwners → Q draws.attemptId.value s') :
    wp (startTransportAttempt draws lease claimed now leaseUntil) Q (Quiet G) s := by
  simp only [startTransportAttempt, wp_bind]
  refine wp_updateTargets claimed.handle.targetId ?_ ?_ ?_ ?_ ?_
  · intro r hr
    simp only [Bool.and_eq_true, decide_eq_true_eq] at hr
    exact hr.1.1.1.1.1
  · exact fun _ => ⟨rfl, rfl, rfl, rfl, rfl⟩
  · intro _
    simp [Quiet, NotCheck, FailsOnCheck]
  · intro r tbl hr hp hupd
    simp only [Bool.and_eq_true, decide_eq_true_eq, beq_iff_eq] at hp
    obtain ⟨⟨⟨⟨⟨-, hst⟩, htok⟩, hseq⟩, hno⟩, hleft⟩ := hp
    have hrow : targetById { s with targets := tbl } claimed.handle.targetId =
        some (r.started draws.attemptId now leaseUntil) := by
      rw [hupd, Function.update_self]
    have hrid := (targetById_some hr).2
    simp only [wp_ensure, wp_get, wp_ofOption, find_inFlight hrow rfl, insertAttempt, wp_bind,
      wp_insertInto, wp_pure, Option.some.injEq, forall_eq', reduceCtorEq, false_implies, and_true]
    refine ⟨fun _ => ⟨fun hmatch => ⟨fun t hins => ?_, ?_⟩, ?_⟩, fun h => absurd trivial h⟩
    · obtain ⟨hrows, -, hfree⟩ := Table.insert_ok hins
      refine hok _ ?_ rfl
      let a := attemptRow draws.attemptId lease claimed now
        (r.started draws.attemptId now leaseUntil)
      have hout : outbox { s with targets := tbl, attempts := t } =
          (outbox s).shift claimed.handle.targetId (r.started draws.attemptId now leaseUntil) [a]
            [] := by
        simp only [outbox, Outbox.shift, hrows, append_nil, ← hupd]
        rfl
      rw [hout]
      refine .shift hr (.start hst hleft (hfence r hr) ?_ ⟨rfl, rfl, rfl, hno.symm⟩)
      intro x hx
      have := hfree x hx
      simp only [attemptSchema, Bool.or_eq_false_iff, beq_eq_false_iff_ne] at this
      exact this.1
    · intro c hins hG _
      obtain ⟨-, hbad⟩ | ⟨rfl, -⟩ := Table.insert_error hins
      · obtain ⟨m, hmem, hm⟩ := any_eq_true.mp hmatch
        simp only [attemptMatches, Bool.and_eq_true, beq_iff_eq] at hm
        have hmr : m = r.started draws.attemptId now leaseUntil := by
          have hm' : targetById { s with targets := tbl } claimed.handle.targetId = some m :=
            outbox_targets.mpr ⟨hmem, hm.1.1.1.1.1.1.1.1.1.1.1.trans hrid⟩
          rw [hrow] at hm'
          exact (Option.some.inj hm').symm
        have hkey : sqlNonBlank claimed.idempotencyKey = true := by
          have hkey : claimed.idempotencyKey = m.eventId ++ ":" ++ m.targetId := hm.1.1.2
          rw [hkey, hmr]
          exact sqlNonBlank_append _ (sqlNonBlank_append _ (hevent r hr))
        have hc := s.targets.checked r (targetById_some hr).1
        rw [attemptRow_check (hsound hG _ r hr) hst hc htok hseq hno hgen (hnow hG) hkey] at hbad
        cases hbad
      · simp_all [FailsOnCheck]
    · simp [Quiet, NotCheck, FailsOnCheck]
  · intro r hr hp hc hbad hG
    simp only [Bool.and_eq_true, decide_eq_true_eq] at hp
    rw [TargetRow.started_check hc hp.1.1.1.1.2 hp.2 (hnow hG) (hsound hG _ r hr)
      (huntil hG)] at hbad
    cases hbad

/-- What `begin_transport` does to the outbox, by its answer. -/
inductive Begins (now : DateTime) (targetId : String) (o : Outbox D) :
    BeginTransport → Outbox D → Prop
  | started {attemptId : String} {o' : Outbox D} :
      Move now (.shift targetId (.start attemptId)) o o' →
      Begins now targetId o (.started attemptId) o'
  | cancelled {o' : Outbox D} :
      Move now (.shift targetId .cancel) o o' → Begins now targetId o .cancelled o'
  | expired {o' : Outbox D} :
      Move now (.shift targetId .expire) o o' → Begins now targetId o .expired o'
  | cancelledBefore : Begins now targetId o .cancelled o
  | expiredBefore : Begins now targetId o .expired o

@[simp]
theorem wp_requireHeld {E : LedgerError → Prop} :
    wp (requireHeld status lease handle now) Q E s ↔
      (handle.ownerGeneration = lease.generation →
        (holdsClaim s status lease handle now = true → Q () s) ∧
          (holdsClaim s status lease handle now = false → E (.claimLost handle.targetId))) ∧
        (handle.ownerGeneration ≠ lease.generation → E (.claimLost handle.targetId)) := by
  simp [requireHeld]

theorem beginTransport_spec {duration : TimeDelta} :
    wp (beginTransport draws lease claimed now duration)
      (fun out s' => s'.runtimeOwners = s.runtimeOwners ∧
        claimed.handle.ownerGeneration = lease.generation ∧
        Begins now claimed.handle.targetId (outbox s) out (outbox s'))
      (Quiet (OwnersBefore s now ∧ Sound now (outbox s) ∧ LeaseEndsLater now duration)) s := by
  let G : Prop := OwnersBefore s now ∧ Sound now (outbox s) ∧ LeaseEndsLater now duration
  have hquiet : ∀ e, NotCheck e → Quiet G e := fun e he _ => he
  simp only [beginTransport, wp_bind, wp_ofOption, wp_ensure, wp_requireOwner, wp_get, wp_ite,
    wp_pure, wp_throw, requireClaimInTransaction, wp_requireHeld]
  refine ⟨fun leaseUntil huntil => ⟨fun _ => ⟨fun _ hlease => ⟨fun hgen => ⟨?_, ?_⟩, ?_⟩, ?_, ?_⟩,
    ?_⟩, ?_⟩
  · rintro ⟨status, expiresAtUs, cancelled⟩ hstate
    obtain ⟨t, ht, hst, hblank, hfence⟩ := transportState_some hstate
    have hnow : G → 0 < micros now := fun hG => holdsRole_now hlease hG.1
    have hthis : ∀ u, targetById s claimed.handle.targetId = some u → u = t := by
      intro u hu
      rw [ht] at hu
      exact (Option.some.inj hu).symm
    refine ⟨fun _ => ⟨trivial, hgen, .cancelledBefore⟩,
      fun _ => ⟨fun _ => ⟨trivial, hgen, .expiredBefore⟩,
      fun _ => ⟨fun _ => hquiet _ (by simp [NotCheck, FailsOnCheck]), fun _ => ⟨fun _ => ?_,
        fun hcan => ⟨fun _ => ?_, fun _ => ⟨fun _ => ⟨fun _ => ?_, ?_⟩, ?_⟩⟩⟩⟩⟩⟩
    · refine wp_terminalWithoutTransport .cancel hnow (.inr (.inl rfl)) ?_ ?_
      · intro u rr hu hrr
        refine .cancel ?_ hrr
        rw [hu]
        rfl
      · exact fun s' hm ho => ⟨ho, hgen, .cancelled hm⟩
    · refine wp_terminalWithoutTransport .expire hnow (.inr (.inr rfl)) ?_ ?_
      · exact fun u rr hu hrr => .expireClaim hu hrr
      · exact fun s' hm ho => ⟨ho, hgen, .expired hm⟩
    · refine wp_startTransportAttempt (holdsRole_generation hlease) hnow
        (fun hG => hG.2.1) ?_ ?_ ?_ ?_
      · intro hG
        rw [checkedAddSigned_eq huntil]
        exact hG.2.2
      · intro u hu
        rw [hthis u hu]
        exact hblank
      · intro u hu
        rw [hthis u hu]
        exact hfence (by simpa using hcan)
      · exact fun s' hm ho => ⟨ho, hgen, .started hm⟩
    all_goals
      intro _
      exact hquiet _ (by simp [NotCheck, FailsOnCheck])
  all_goals
    intros
    exact hquiet _ (by simp [NotCheck, FailsOnCheck])

variable {errorCode : String}

theorem rejectBeforeTransport_spec :
    wp (rejectBeforeTransport draws lease handle errorCode now)
      (fun _ s' => handle.ownerGeneration = lease.generation ∧
        Advance now (ShiftsBy [.reject]) s s') (Quiet (OwnersBefore s now)) s := by
  have hquiet : ∀ e, NotCheck e → Quiet (OwnersBefore s now) e := fun e he _ => he
  simp only [rejectBeforeTransport, wp_bind, wp_ensure, wp_requireOwner, requireClaimInTransaction,
    wp_requireHeld]
  refine ⟨fun _ => ⟨fun _ hlease => ⟨fun hgen => ⟨fun _ => ?_, ?_⟩, ?_⟩, ?_, ?_⟩, ?_⟩
  · refine wp_terminalWithoutTransport .reject (fun hG => holdsRole_now hlease hG) (.inl rfl) ?_ ?_
    · exact fun u rr hu hrr => .reject hu hrr
    · exact fun s' hm ho => ⟨hgen, .single ⟨_, .reject, by simp, rfl⟩ hm ho⟩
  all_goals
    intros
    exact hquiet _ (by simp [NotCheck, FailsOnCheck])

/-! ## Settlement -/

/-- Where a plan sends an in-flight row, the row passes its CHECK. -/
def PlanFits (plan : SettlementPlan) (now : DateTime) (t : TargetRow) : Prop :=
  t.check = true → t.status = .inFlight → 0 < micros now → (t.settled plan now).check = true

theorem terminalPlan_fits (hs : status = .deadLetter ∨ status = .uncertain) :
    PlanFits (terminalPlan status errorCode now) now t := by
  intro hc hst hnow
  simp only [check, Bool.and_eq_true, decide_eq_true_eq] at hc ⊢
  rcases hs with rfl | rfl <;>
    simp_all [settled, terminalPlan, release, statusColumns,
      unclaimed, TargetRow.isFailure]

theorem deliveredPlan_fits :
    PlanFits { terminalPlan .delivered "delivered" now with delivered := some (micros now) } now
      t := by
  intro hc hst hnow
  simp only [check, Bool.and_eq_true, decide_eq_true_eq] at hc ⊢
  simp_all [settled, terminalPlan, release, statusColumns,
    unclaimed, TargetRow.isFailure]

theorem retryPlan_fits {retryAt : DateTime} (hleft : t.attemptCount < t.maxAttempts) :
    PlanFits (retryPlan errorCode retryAt) now t := by
  intro hc hst hnow
  simp only [check, Bool.and_eq_true, decide_eq_true_eq] at hc ⊢
  simp_all [settled, retryPlan, release, statusColumns,
    unclaimed, TargetRow.isFailure]

/-- A settlement that asks for another attempt of a target with attempts left. -/
def retriesTarget (s : Ledger D) (targetId : String) : Settlement → Bool
  | .retryable _ _ => (targetById s targetId).any fun t => t.attemptCount < t.maxAttempts
  | _ => false

variable {settlement : Settlement}

theorem wp_settlementPlan {Q : SettlementPlan → Ledger D → Prop}
    (ht : targetById s targetId = some t)
    (hok : ∀ plan, PlanFits plan now t →
      (plan.status = .pending → retriesTarget s targetId settlement = true) → Q plan s) :
    wp (settlementPlan targetId settlement now) Q (Quiet G) s := by
  have hterminal : ∀ (status : TargetStatus) (code : String),
      status = .deadLetter ∨ status = .uncertain → Q (terminalPlan status code now) s := by
    intro status code hs
    refine hok _ (terminalPlan_fits hs) fun hp => ?_
    simp only [terminalPlan] at hp
    subst hp
    simp at hs
  cases settlement with
  | delivered => exact hok _ deliveredPlan_fits fun hp => by cases hp
  | permanentFailure => exact hterminal .deadLetter _ (.inl rfl)
  | transportUncertain => exact hterminal .uncertain _ (.inr rfl)
  | retryable errorCode retryAt =>
    simp only [settlementPlan, wp_bind, wp_get, wp_queryRow, ht, wp_ite, wp_pure,
      Option.some.injEq, forall_eq', reduceCtorEq, false_implies, and_true]
    refine ⟨fun _ => hterminal .deadLetter _ (.inl rfl), fun hlt => ?_⟩
    have hleft : t.attemptCount < t.maxAttempts := by omega
    refine hok _ (retryPlan_fits hleft) fun _ => ?_
    simp [retriesTarget, ht, hleft]

variable {attemptId : String}

theorem validateSettlement_error {e : LedgerError}
    (h : validateSettlement attemptId settlement now = .error e) :
    ∃ what, e = .invalidValue what := by
  unfold validateSettlement at h
  rcases require_bind_error.mp h with ⟨-, rfl⟩ | ⟨-, h⟩
  · exact ⟨_, rfl⟩
  · cases settlement <;> exact ⟨_, (require_error.mp h).2.symm⟩

theorem settlementReceipt_attempt {w : SettlementWrite} {r : Receipt}
    (h : settlementReceipt attemptId settlement w = .ok r) : r.attemptId = some attemptId := by
  unfold settlementReceipt at h
  split at h <;> cases h <;> rfl

theorem settle_spec :
    wp (settle draws lease handle attemptId settlement now)
      (fun w s' => s'.runtimeOwners = s.runtimeOwners ∧
        handle.ownerGeneration = lease.generation ∧
        ∃ status, dispositionOf status = .ok w ∧
          (status = .pending → retriesTarget s handle.targetId settlement = true) ∧
          Move now (.shift handle.targetId (.settle status)) (outbox s) (outbox s'))
      (Quiet (OwnersBefore s now)) s := by
  have hquiet : ∀ e, NotCheck e → Quiet (OwnersBefore s now) e := fun e he _ => he
  simp only [settle, wp_bind, wp_ofExcept, wp_requireOwner, requireInFlightInTransaction,
    wp_requireHeld, wp_get, wp_ensure]
  refine ⟨fun _ _ => ⟨fun _ hlease => ⟨fun hgen => ⟨fun hheld => ⟨fun _ => ?_, ?_⟩, ?_⟩, ?_⟩,
    ?_, ?_⟩,
    ?_⟩
  · have hnow : OwnersBefore s now → 0 < micros now := fun hG => holdsRole_now hlease hG
    obtain ⟨t, hmem, hp⟩ := any_eq_true.mp hheld
    simp only [Bool.and_eq_true, decide_eq_true_eq] at hp
    have ht : targetById s handle.targetId = some t :=
      outbox_targets.mpr ⟨hmem, hp.1.1.1.1.1.1⟩
    refine wp_settlementPlan ht fun plan hfits hretry => ?_
    refine ⟨fun w hw => ?_, ?_⟩
    · have hpin : ∀ r : TargetRow, (decide (r.targetId = handle.targetId) &&
          decide (r.status = .inFlight) && r.claimToken == some handle.claimToken &&
          r.leaseSequence == handle.leaseSequence && r.currentAttemptId == some attemptId) = true →
          r.targetId = handle.targetId ∧ r.status = .inFlight ∧
            r.currentAttemptId = some attemptId := by
        intro r hr
        simp only [Bool.and_eq_true, decide_eq_true_eq, beq_iff_eq] at hr
        exact ⟨hr.1.1.1.1, hr.1.1.1.2, hr.2⟩
      have hfits' : ∀ r, targetById s handle.targetId = some r → r.check = true →
          r.status = .inFlight → OwnersBefore s now → (r.settled plan now).check = true := by
        intro r hr hc hst hG
        obtain rfl : r = t := Option.some.inj (hr.symm.trans ht)
        exact hfits hc hst (hnow hG)
      cases hrc : settlementReceipt attemptId settlement w with
      | error e =>
        have he : NotCheck e := by
          unfold settlementReceipt at hrc
          split at hrc <;> cases hrc
          simp [NotCheck, FailsOnCheck]
        refine wp_updateTargets handle.targetId (fun r hr => (hpin r hr).1)
          (fun _ => ⟨rfl, rfl, rfl, rfl, rfl⟩) ?_ ?_ ?_
        · intro _
          simp [Quiet, NotCheck, FailsOnCheck]
        · intro r tbl _ _ _
          simp [Quiet, he]
        · intro r hr hpr hc hbad hG
          rw [hfits' r hr hc (hpin r hpr).2.1 hG] at hbad
          cases hbad
      | ok receipt =>
        have hatt := settlementReceipt_attempt hrc
        let K (n : Nat) : LedgerM D Unit := do
          Txn.ensure (n = 1) (.claimLost handle.targetId)
          insertReceipt (draws.receiptId handle.targetId) handle.targetId receipt now
        let Q (_ : Unit) (s' : Ledger D) : Prop := s'.runtimeOwners = s.runtimeOwners ∧
          handle.ownerGeneration = lease.generation ∧ ∃ status, dispositionOf status = .ok w ∧
            (status = .pending → retriesTarget s handle.targetId settlement = true) ∧
            Move now (.shift handle.targetId (.settle status)) (outbox s) (outbox s')
        refine wp_mono ?_ (fun _ h => h) (wp_shiftWith (Q := Q) (K := K) (.settle plan.status)
          (draws.receiptId handle.targetId) receipt (fun r hr => (hpin r hr).1)
          (fun _ => ⟨rfl, rfl, rfl, rfl, rfl⟩) hnow ?_ ?_ ?_ ?_ ?_)
        · intro n st hK
          simp only [K, wp_bind, wp_ensure] at hK
          simpa using hK
        · intro r hr hpr hc hG
          exact hfits' r hr hc (hpin r hpr).2.1 hG
        · intro r rr hr hpr hrr
          rw [hatt] at hrr
          exact .settle (hpin r hpr).2.1 (hpin r hpr).2.2 hw hrr
        · intro r st' _ _ hm ho _
          exact ⟨ho, hgen, plan.status, hw, hretry, hm⟩
        · intro _
          simp [K, Quiet, NotCheck, FailsOnCheck]
        · intro st hst
          simp only [K, wp_bind, wp_ensure]
          exact ⟨fun _ => hst, fun h => absurd trivial h⟩
    · intro e he
      refine hquiet e ?_
      unfold dispositionOf at he
      split at he <;> cases he
      simp [NotCheck, FailsOnCheck]
  · simp [Quiet, NotCheck, FailsOnCheck]
  · simp [Quiet, NotCheck, FailsOnCheck]
  · simp [Quiet, NotCheck, FailsOnCheck]
  · simp [Quiet, NotCheck, FailsOnCheck]
  · simp [Quiet, NotCheck, FailsOnCheck]
  · intro e he
    obtain ⟨what, rfl⟩ := validateSettlement_error he
    exact hquiet _ (by simp [NotCheck, FailsOnCheck])

/-! ## Operator actions -/

variable {actor : String}

theorem validateOperatorInput_ok (h : validateOperatorInput targetId actor reasonCode now = true) :
    sqlNonBlank actor = true ∧ sqlNonBlank reasonCode = true ∧ 0 < micros now := by
  simp only [validateOperatorInput, Bool.and_eq_true, Bool.not_eq_true', decide_eq_true_eq] at h
  obtain ⟨⟨⟨⟨⟨⟨⟨⟨-, -⟩, ha⟩, -⟩, ha'⟩, hr⟩, -⟩, hr'⟩, hnow⟩ := h
  exact ⟨sqlNonBlank_of_text ha ha', sqlNonBlank_of_text hr hr', hnow⟩

theorem wp_insertOperatorAction {action : OperatorAction}
    (hinput : validateOperatorInput targetId actor reasonCode now = true)
    (hok : ∀ t, Q () { s with operatorActions := t }) :
    wp (insertOperatorAction draws targetId action reasonCode actor now) Q (Quiet G) s := by
  obtain ⟨ha, hr, hnow⟩ := validateOperatorInput_ok hinput
  simp only [insertOperatorAction, wp_insertInto]
  refine ⟨fun t _ => hok t, fun c hins _ => ?_⟩
  obtain ⟨rfl, hbad⟩ | ⟨rfl, -⟩ := Table.insert_error hins
  · simp [operatorActionSchema, sqlNonBlank_token, ha, hr, hnow] at hbad
  · simp [NotCheck, FailsOnCheck]

theorem TargetRow.acknowledged_check (hc : t.check = true) (hs : isFailure t.status = true)
    (hnow : 0 < micros now) : (t.acknowledged now).check = true := by
  simp only [check, Bool.and_eq_true, decide_eq_true_eq] at hc ⊢
  cases hst : t.status <;>
    simp_all [acknowledged, statusColumns, unclaimed,
      TargetRow.isFailure]

theorem TargetRow.replayed_check (hc : t.check = true) (hs : t.status.replayable = true)
    (hnow : 0 < micros now) : (t.replayed now).check = true := by
  simp only [check, Bool.and_eq_true, decide_eq_true_eq] at hc ⊢
  cases hst : t.status <;>
    simp_all [replayed, statusColumns, unclaimed,
      TargetRow.isFailure, TargetStatus.replayable]
  all_goals omega

theorem wp_operatorShift {p : TargetRow → Bool} {f : TargetRow → TargetRow}
    {action : OperatorAction} {err : LedgerError} (k : Shift)
    (hinput : validateOperatorInput targetId actor reasonCode now = true)
    (ht : targetById s targetId = some t) (hp : ∀ r, p r = true → r.targetId = targetId)
    (hf : ∀ r, SameTarget r (f r)) (herr : NotCheck err)
    (hcheck : t.check = true → (f t).check = true)
    (hshift : Shifted now (outbox s) t k (f t) [] [])
    (hok : ∀ s', Advance now (fun l => l = .shift targetId k) s s' → Q () s') :
    wp (updateTargets p f)
      (fun n st =>
        (n = 1 → wp (insertOperatorAction draws targetId action reasonCode actor now) Q
          (Quiet G) st) ∧ (n ≠ 1 → Quiet G err)) (Quiet G) s := by
  have hthis : ∀ r, targetById s targetId = some r → r = t := by
    intro r hr
    rw [ht] at hr
    exact (Option.some.inj hr).symm
  refine wp_updateTargets targetId hp hf ?_ ?_ ?_
  · intro _
    simp [Quiet, herr]
  · intro r tbl hr _ hupd
    obtain rfl := hthis r hr
    refine ⟨fun _ => wp_insertOperatorAction hinput fun acts => ?_, fun h => absurd rfl h⟩
    have hout : outbox { s with targets := tbl, operatorActions := acts } =
        (outbox s).shift targetId (f r) [] [] := by
      simp only [outbox, Outbox.shift, append_nil, ← hupd]
      rfl
    refine hok _ (.single rfl ?_ rfl)
    rw [hout]
    exact .shift hr hshift
  · intro r hr _ hc hbad _
    obtain rfl := hthis r hr
    rw [hcheck hc] at hbad
    cases hbad

theorem acknowledgeFailure_spec : wp (acknowledgeFailure draws targetId actor reasonCode now)
      (fun _ s' => Advance now (fun l => l = .shift targetId .acknowledge) s s')
      (Quiet True) s := by
  simp only [acknowledgeFailure, wp_bind, wp_ensure, wp_get, wp_ofOption, wp_ite, wp_pure]
  refine ⟨fun hinput => ⟨fun t ht => ⟨fun hfail => ⟨fun _ => .refl s, fun _ => ?_⟩, ?_⟩, ?_⟩, ?_⟩
  · have hnow := (validateOperatorInput_ok hinput).2.2
    refine wp_operatorShift .acknowledge hinput ht ?_ (fun _ => ⟨rfl, rfl, rfl, rfl, rfl⟩) ?_
      (fun hc => TargetRow.acknowledged_check hc hfail hnow) (.acknowledge hfail) fun _ h => h
    · exact fun _ => pinned
    · simp [NotCheck, FailsOnCheck]
  all_goals
    intros
    simp [Quiet, NotCheck, FailsOnCheck]

theorem replayFailure_spec : wp (replayFailure draws targetId actor reasonCode now)
      (fun _ s' => Advance now (fun l => l = .shift targetId .replay) s s') (Quiet True) s := by
  simp only [replayFailure, wp_bind, wp_ensure, wp_get, wp_ofOption]
  refine ⟨fun hinput => ⟨fun state hstate => ⟨fun hrep => ⟨fun hexp => ?_, ?_⟩, ?_⟩, ?_⟩, ?_⟩
  · have hnow := (validateOperatorInput_ok hinput).2.2
    obtain ⟨t, ht, hst, -, -⟩ := transportState_some hstate
    rw [← hst] at hrep
    refine wp_operatorShift .replay hinput ht ?_ (fun _ => ⟨rfl, rfl, rfl, rfl, rfl⟩) ?_
      (fun hc => TargetRow.replayed_check hc hrep hnow) (.replay hrep) fun _ h => h
    · exact fun _ => pinned
    · simp [NotCheck, FailsOnCheck]
  all_goals
    intros
    simp [Quiet, NotCheck, FailsOnCheck]

end SpxSpark.Ledger
