import SpxSpark.Ledger.StateMachine

/-!
# Audit — the receipts tell every transition

`Story` is what the receipts written for one target must say about its row before and after: one
receipt that announces the new status when the target ended or went back to pending, and none
otherwise.
-/

open SpxSpark.Domain SpxSpark.Lib

namespace SpxSpark.Ledger

open Txn List

variable {D : Type} {s st st' : Ledger D} {now : DateTime}

/-! ## The story of one target -/

/-- Pending or terminal: the statuses a target is closed to. -/
def TargetStatus.closing : TargetStatus → Bool
  | .claimed | .inFlight => false
  | _ => true

def StoredOutcome.announces : StoredOutcome → TargetStatus
  | .delivered => .delivered
  | .retryableFailure | .claimRecovered => .pending
  | .retryExhausted | .permanentFailure => .deadLetter
  | .cancelledBeforeTransport => .cancelled
  | .expiredBeforeTransport => .expired
  | .transportUncertain => .uncertain

theorem StoredOutcome.announces_closing (o : StoredOutcome) : o.announces.closing = true := by
  cases o <;> rfl

/-- The target went from its status to another one, to a closing one. -/
def Closed (before after : Option TargetRow) : Prop :=
  ∃ t t', before = some t ∧ after = some t' ∧ t'.status ≠ t.status ∧ t'.status.closing = true

/-- What the receipts `new` of a target say about its row before and after. -/
structure Story (before after : Option TargetRow) (new : List ReceiptRow) : Prop where
  told : Closed before after → ∃ r t', new = [r] ∧ after = some t' ∧ r.outcome.announces = t'.status
  silent : ¬ Closed before after → new = []

def receiptsOf (receipts : List ReceiptRow) (targetId : String) : List ReceiptRow :=
  receipts.filter (·.targetId = targetId)

/-- From `s` to `st`, the receipts written tell the story of every target. -/
def Audited (s st : Ledger D) : Prop :=
  ∃ new, st.receipts.rows = s.receipts.rows ++ new ∧
    ∀ id, Story (targetById s id) (targetById st id) (receiptsOf new id)

theorem not_closed_same (row : Option TargetRow) : ¬ Closed row row := by
  rintro ⟨t, t', ht, ht', hne, -⟩
  rw [ht] at ht'
  cases ht'
  exact hne rfl

variable {t : TargetRow}

theorem not_closed_of_open {before : Option TargetRow} (h : t.status.closing = false) :
    ¬ Closed before (some t) := by
  rintro ⟨u, u', -, hu', -, hclosing⟩
  cases hu'
  rw [h] at hclosing
  cases hclosing

theorem Story.same (row : Option TargetRow) : Story row row [] :=
  ⟨fun h => absurd h (not_closed_same row), fun _ => rfl⟩

theorem Audited.refl (s : Ledger D) : Audited s s :=
  ⟨[], by simp, fun id => .same _⟩

theorem Audited.of_outbox (h : outbox st = outbox s) : Audited s st := by
  refine ⟨[], ?_, fun id => ?_⟩
  · rw [append_nil]
    exact congrArg Outbox.receipts h
  · rw [show targetById st id = targetById s id from congrFun (congrArg Outbox.targets h) id]
    exact .same _

theorem Audited.keep (h : Audited s st)
    (hkeep : ∀ id t, targetById st id = some t → targetById st' id = some t)
    (hnew : ∀ id, targetById st id = none → ∀ t, targetById st' id = some t →
      targetById s id = none)
    (hreceipts : st'.receipts.rows = st.receipts.rows) : Audited s st' := by
  obtain ⟨new, hrows, hstory⟩ := h
  refine ⟨new, hreceipts.trans hrows, fun id => ?_⟩
  cases ht : targetById st id with
  | some t =>
    rw [hkeep id t ht, ← ht]
    exact hstory id
  | none =>
    have hsilent : receiptsOf new id = [] := by
      refine (hstory id).silent ?_
      rintro ⟨u, u', -, hu', -⟩
      rw [ht] at hu'
      cases hu'
    rw [hsilent]
    refine ⟨?_, fun _ => rfl⟩
    rintro ⟨u, u', hu, hu', -⟩
    rw [hnew id ht u' hu'] at hu
    cases hu

theorem Audited.rewrite (h : Audited s st) {id : String}
    (hfirst : targetById st id = targetById s id)
    (hupd : targetById st' = Function.update (targetById st) id (some t))
    (hopen : ¬ Closed (targetById s id) (some t))
    (hreceipts : st'.receipts.rows = st.receipts.rows) : Audited s st' := by
  obtain ⟨new, hrows, hstory⟩ := h
  refine ⟨new, hreceipts.trans hrows, fun x => ?_⟩
  by_cases hx : x = id
  · subst hx
    have hsilent : receiptsOf new x = [] := (hstory x).silent (hfirst ▸ not_closed_same _)
    rw [hsilent, hupd, Function.update_self]
    exact ⟨fun hc => absurd hc hopen, fun _ => rfl⟩
  · rw [hupd, Function.update_of_ne hx]
    exact hstory x

theorem Audited.close (h : Audited s st) {id : String} {t' : TargetRow} {r : ReceiptRow}
    (hfirst : targetById st id = targetById s id) (ht : targetById st id = some t)
    (hupd : targetById st' = Function.update (targetById st) id (some t'))
    (hne : t'.status ≠ t.status) (hreceipts : st'.receipts.rows = st.receipts.rows ++ [r])
    (hr : r.targetId = id) (hannounces : r.outcome.announces = t'.status) : Audited s st' := by
  obtain ⟨new, hrows, hstory⟩ := h
  refine ⟨new ++ [r], by rw [hreceipts, hrows, append_assoc], fun x => ?_⟩
  by_cases hx : x = id
  · subst hx
    have hsilent : receiptsOf new x = [] := (hstory x).silent (hfirst ▸ not_closed_same _)
    have hone : receiptsOf (new ++ [r]) x = [r] := by
      unfold receiptsOf at hsilent ⊢
      simp [filter_append, hsilent, hr]
    rw [hone, hupd, Function.update_self, ← hfirst, ht]
    refine ⟨fun _ => ⟨r, t', rfl, rfl, hannounces⟩, fun hno => absurd ?_ hno⟩
    exact ⟨t, t', rfl, rfl, hne, hannounces ▸ r.outcome.announces_closing⟩
  · have hsame : receiptsOf (new ++ [r]) x = receiptsOf new x := by
      have : r.targetId ≠ x := fun h => hx (h.symm.trans hr)
      simp [receiptsOf, filter_append, this]
    rw [hsame, hupd, Function.update_of_ne hx]
    exact hstory x

/-! ## Statements -/

variable {targetId : String}

/-- `insert_receipt` for a stored target. -/
theorem wp_insertReceipt_row {Q : Unit → Ledger D → Prop} {receiptId : Uuid} {receipt : Receipt}
    (ht : targetById st targetId = some t)
    (hok : ∀ r tbl, r.targetId = targetId → r.outcome = receipt.fields.outcome →
      tbl.rows = st.receipts.rows ++ [r] → Q () { st with receipts := tbl }) :
    wp (insertReceipt receiptId targetId receipt now) Q (fun _ => True) st := by
  have hid := (targetById_some ht).2
  simp only [insertReceipt, insertReceiptRow, wp_bind, wp_get, wp_queryRow, wp_liftDomain,
    wp_ensure,
    wp_insertInto, ht, Option.some.injEq, forall_eq', implies_true, and_true]
  intro wire _ _ tbl hins
  exact hok _ tbl hid rfl (Table.insert_ok hins).1

section Close

variable {Q : Unit → Ledger D → Prop} {p : TargetRow → Bool} {f : TargetRow → TargetRow}
  {K : Nat → LedgerM D Unit} {err : LedgerError} (targetId : String) (receiptId : Uuid)
  (receipt : Receipt)
  (now : DateTime) (hp : ∀ r, p r = true → r.targetId = targetId) (hf : ∀ r, SameTarget r (f r))
  (h : Audited s st) (hfirst : targetById st targetId = targetById s targetId)
  (hclose : ∀ r, targetById st targetId = some r → p r = true → (f r).status ≠ r.status ∧
    receipt.fields.outcome.announces = (f r).status)
  (hok : ∀ u, Audited s u → (∀ x, x ≠ targetId → targetById u x = targetById st x) → Q () u)

include hp hf h hfirst hclose hok

/-- An update of one target, and the receipt that follows it; `K` is what the program does with the
number of rows it matched. -/
theorem wp_close
    (hnone : (∀ r, targetById st targetId = some r → p r = false) →
      wp (K 0) Q (fun _ => True) st)
    (hone : ∀ u, wp (insertReceipt receiptId targetId receipt now) Q (fun _ => True) u →
      wp (K 1) Q (fun _ => True) u) :
    wp (updateTargets p f) (fun n u => wp (K n) Q (fun _ => True) u) (fun _ => True) st := by
  refine wp_updateTargets targetId hp hf hnone ?_ fun _ _ _ _ _ => trivial
  intro r t hr hpr hlook
  obtain ⟨hne, hannounces⟩ := hclose r hr hpr
  have hrow : targetById { st with targets := t } targetId = some (f r) := by
    rw [hlook, Function.update_self]
  refine hone _ (wp_insertReceipt_row hrow ?_)
  intro rr tbl hid hout htbl
  refine hok _ (h.close hfirst hr hlook hne htbl hid (hout ▸ hannounces)) ?_
  intro x hx
  have : targetById { st with targets := t, receipts := tbl } x =
      targetById { st with targets := t } x := rfl
  rw [this, hlook, Function.update_of_ne hx]

/-- The form most operations use: exactly one row must have matched. -/
theorem wp_closeOne : wp (do
        let changed ← updateTargets p f
        Txn.ensure (changed = 1) err
        insertReceipt receiptId targetId receipt now) Q (fun _ => True) st := by
  rw [wp_bind]
  refine wp_close targetId receiptId receipt now hp hf h hfirst hclose hok ?_ ?_
  · intro _
    simp
  · intro u hu
    rw [wp_bind, wp_ensure]
    exact ⟨fun _ => hu, fun h => absurd rfl h⟩

end Close

theorem wp_closeAll {rows : List TargetRow} {body : TargetRow → LedgerM D Unit}
    (hdistinct : (rows.map (·.targetId)).Nodup)
    (hbody : ∀ t ∈ rows, ∀ st, Audited s st →
      targetById st t.targetId = targetById s t.targetId →
      wp (body t) (fun _ u => Audited s u ∧
        ∀ x, x ≠ t.targetId → targetById u x = targetById st x) (fun _ => True) st) :
    wp (rows.forM body) (fun _ u => Audited s u) (fun _ => True) s := by
  let I (todo : List TargetRow) (st : Ledger D) : Prop :=
    (∀ t ∈ todo, t ∈ rows) ∧ (todo.map (·.targetId)).Nodup ∧ Audited s st ∧
      ∀ t ∈ todo, targetById st t.targetId = targetById s t.targetId
  have hstart : I rows s := ⟨fun _ h => h, hdistinct, .refl s, fun _ _ => rfl⟩
  refine wp_mono (fun _ _ h => h.2.2.1) (fun _ h => h) (wp_forM I ?_ hstart)
  rintro t todo st ⟨hin, hnodup, hst, hfirst⟩
  rw [map_cons, nodup_cons] at hnodup
  refine wp_mono ?_ (fun _ h => h) (hbody t (hin t (mem_cons_self ..)) st hst
    (hfirst t (mem_cons_self ..)))
  rintro - u ⟨hu, hothers⟩
  refine ⟨fun x hx => hin x (mem_cons_of_mem _ hx), hnodup.2, hu, ?_⟩
  intro x hx
  have hne : x.targetId ≠ t.targetId := by
    intro heq
    exact hnodup.1 (mem_map.mpr ⟨x, hx, heq⟩)
  rw [hothers _ hne]
  exact hfirst x (mem_cons_of_mem _ hx)

theorem nodup_targetIds (p : TargetRow → Bool) :
    ((s.targets.rows.filter p).map (·.targetId)).Nodup := by
  rw [List.Nodup, pairwise_map]
  refine (s.targets.distinct.filter p).imp ?_
  intro a b hab
  simp only [targetSchema, Bool.or_eq_false_iff, beq_eq_false_iff_ne] at hab
  exact hab.1

variable {draws : Draws}

theorem cancelAll_audited {reason transition : String} {rows : List TargetRow}
    (hsel : ∀ r ∈ rows, r.status.unsent = true) (hdistinct : (rows.map (·.targetId)).Nodup) :
    wp (rows.forM fun t => cancelUnsent (draws.receiptId t.targetId) reason transition now t)
      (fun _ u => Audited s u) (fun _ => True) s := by
  refine wp_closeAll hdistinct ?_
  intro t ht st hst hfirst
  refine wp_closeOne _ _ _ _ ?_ (fun _ => ⟨rfl, rfl, rfl, rfl, rfl⟩) hst hfirst ?_ fun _ hu hx =>
    ⟨hu, hx⟩
  · exact fun _ => TargetRow.pinned
  · intro r _ hr
    simp only [Bool.and_eq_true, decide_eq_true_eq] at hr
    refine ⟨fun heq => ?_, rfl⟩
    have hunsent := hsel t ht
    rw [← hr.2, ← heq] at hunsent
    cases hunsent

/-! ## Operations -/

theorem Audited.publish {P : Label D → Prop} (h : Audited s st)
    (hm : Moves now P (outbox st) (outbox st')) (hP : ∀ id k, ¬ P (.shift id k))
    (hold : ∀ id, targetById st id = none → targetById s id = none) : Audited s st' := by
  have hkeep : ∀ id t, targetById st id = some t → targetById st' id = some t := by
    intro id t ht
    refine hm.keeps (I := fun o => o.targets id = some t) ?_ ht
    intro l hl a b hmove ha
    rcases hmove.target_cases id with he | ⟨u, -, -, hn, -⟩ | ⟨k, u, u', as, rs, rfl, -⟩
    · exact he.trans ha
    · rw [ha] at hn
      cases hn
    · exact absurd hl (hP id k)
  have hreceipts : (outbox st').receipts = (outbox st).receipts := by
    let R (a b : Outbox D) : Prop := b.receipts = a.receipts
    refine hm.relates (R := R) (fun _ => rfl) (fun {_ _ _} hab hbc => Eq.trans hbc hab) ?_
    intro l hl a b hmove
    cases hmove with
    | shift => exact absurd hl (hP _ _)
    | _ => rfl
  exact h.keep hkeep (fun id hn _ _ => hold id hn) hreceipts

variable {reasonCode : String}

variable {handle : ClaimHandle}

theorem terminalWithoutTransport_audited {status : TargetStatus} {receipt : Receipt}
    (hreceipt : receipt.fields.outcome.announces = status) :
    wp (terminalWithoutTransport draws handle now status reasonCode receipt)
      (fun _ u => Audited s u) (fun _ => True) s := by
  refine wp_closeOne _ _ _ _ ?_ (fun _ => ⟨rfl, rfl, rfl, rfl, rfl⟩)
    (.refl s) rfl ?_ fun u hu _ => hu
  · intro r hr
    simp only [Bool.and_eq_true, decide_eq_true_eq] at hr
    exact hr.1.1.1
  · intro r _ hr
    simp only [Bool.and_eq_true, decide_eq_true_eq] at hr
    refine ⟨fun heq => ?_, hreceipt⟩
    have hclosing := receipt.fields.outcome.announces_closing
    rw [hreceipt] at hclosing
    have hst : status = .claimed := heq.trans hr.1.1.2
    rw [hst] at hclosing
    cases hclosing

theorem recoverTarget_audited {summary : RecoverySummary} (h : Audited s st)
    (hrow : targetById st t.targetId = some t)
    (hfirst : targetById st t.targetId = targetById s t.targetId) :
    wp (recoverTarget draws now summary t)
      (fun _ u => Audited s u ∧ ∀ x, x ≠ t.targetId → targetById u x = targetById st x)
      (fun _ => True) st := by
  have hpin : ∀ (status : TargetStatus) (r : TargetRow),
      (decide (r.targetId = t.targetId) && decide (r.status = status)) = true →
        r.targetId = t.targetId ∧ r.status = status := by
    intro status r hr
    simpa using hr
  cases hst : t.status with
  | inFlight =>
    simp only [recoverTarget, hst, wp_bind, wp_ofOption, wp_pure, implies_true, and_true]
    intro a _
    refine wp_close t.targetId (draws.receiptId t.targetId)
      (.transportUncertain a "worker_lost_after_transport_start") now
      (fun r hr => (hpin .inFlight r hr).1) (fun _ => ⟨rfl, rfl, rfl, rfl, rfl⟩) h hfirst ?_
      (fun u hu hx => ⟨hu, hx⟩) ?_ (fun _ hu => hu)
    · intro r _ hr
      rw [(hpin .inFlight r hr).2]
      exact ⟨fun hstatus => TargetStatus.noConfusion hstatus, rfl⟩
    · intro hno
      have := hno t hrow
      simp [hst] at this
  | claimed =>
    simp only [recoverTarget, hst, wp_bind, wp_ensure, wp_pure, implies_true, and_true]
    intro _
    refine wp_close t.targetId (draws.receiptId t.targetId) .claimRecovered now
      (fun r hr => (hpin .claimed r hr).1) (fun _ => ⟨rfl, rfl, rfl, rfl, rfl⟩) h hfirst ?_
      (fun u hu hx => ⟨hu, hx⟩) ?_ (fun _ hu => hu)
    · intro r _ hr
      rw [(hpin .claimed r hr).2]
      exact ⟨fun hstatus => TargetStatus.noConfusion hstatus, rfl⟩
    · intro hno
      have := hno t hrow
      simp [hst] at this
  | _ =>
    simp only [recoverTarget, hst]
    trivial

variable {lease : OwnerLease}

theorem recoverStaleClaims_audited :
    wp (recoverStaleClaims draws lease now) (fun _ u => Audited s u) (fun _ => True) s := by
  simp only [recoverStaleClaims, wp_bind, wp_requireOwner, wp_get, implies_true, and_true]
  intro _ _
  let I (todo : List TargetRow) (_ : RecoverySummary) (st : Ledger D) : Prop :=
    Audited s st ∧ (todo.map (·.targetId)).Nodup ∧
      ∀ t ∈ todo, targetById s t.targetId = some t ∧ targetById st t.targetId = some t
  have hstart : I (staleTargets s now) ⟨0, 0⟩ s := by
    refine ⟨.refl s, nodup_targetIds _, ?_⟩
    intro t ht
    have hrow := targetById_of_mem (mem_filter.mp ht).1
    exact ⟨hrow, hrow⟩
  refine wp_mono (fun _ _ h => h.1) (fun _ h => h) (wp_foldlM I ?_ hstart)
  rintro t todo summary st ⟨hst, hnodup, hrows⟩
  rw [map_cons, nodup_cons] at hnodup
  obtain ⟨hrow, hrow'⟩ := hrows t (mem_cons_self ..)
  refine wp_mono ?_ (fun _ h => h) (recoverTarget_audited hst hrow' (hrow'.trans hrow.symm))
  rintro summary' u ⟨hu, hothers⟩
  refine ⟨hu, hnodup.2, ?_⟩
  intro x hx
  obtain ⟨hx₀, hx₁⟩ := hrows x (mem_cons_of_mem _ hx)
  refine ⟨hx₀, ?_⟩
  rw [hothers]
  · exact hx₁
  · intro heq
    exact hnodup.1 (mem_map.mpr ⟨x, hx, heq⟩)

theorem expireDue_audited :
    wp (expireDue draws now) (fun _ u => Audited s u) (fun _ => True) s := by
  simp only [expireDue, wp_bind, wp_get]
  refine wp_closeAll (nodup_targetIds _) ?_
  intro t _ st hst hfirst
  refine wp_closeOne _ _ _ _ ?_ (fun _ => ⟨rfl, rfl, rfl, rfl, rfl⟩) hst hfirst ?_ fun _ hu hx =>
    ⟨hu, hx⟩
  · exact fun _ => TargetRow.pinned
  · intro r _ hr
    simp only [Bool.and_eq_true, decide_eq_true_eq] at hr
    rw [hr.2]
    exact ⟨fun hstatus => TargetStatus.noConfusion hstatus, rfl⟩

theorem Moves.unexpired {o o' : Outbox D} (h : Moves now (ShiftsBy [.expire]) o o') {id : String}
    (ht : o'.targets id = some t) (hst : t.status ≠ .expired) : o.targets id = some t := by
  let I (x : Outbox D) : Prop :=
    x.targets id = o.targets id ∨ ∃ u, x.targets id = some u ∧ u.status = .expired
  have hI : I o' := by
    refine h.keeps (I := I) ?_ (.inl rfl)
    rintro l ⟨x, k, hk, rfl⟩ a b hm ha
    rcases hm.target_cases id with he | ⟨u, hl, -⟩ | ⟨k', u, u', as, rs, hl, -, hu', hs⟩
    · unfold I
      rw [he]
      exact ha
    · cases hl
    · cases hl
      have hp := hs.permits
      rw [mem_singleton.mp hk] at hp
      simp only [Shift.permits, Bool.and_eq_true, beq_iff_eq] at hp
      exact .inr ⟨u', hu', hp.2⟩
  rcases hI with he | ⟨u, hu, hexp⟩
  · rw [← he]
    exact ht
  · rw [ht] at hu
    cases hu
    exact absurd hexp hst

theorem claimNext_audited {claimDuration : TimeDelta} :
    wp (claimNext draws lease now claimDuration) (fun _ u => Audited s u) (fun _ => True) s := by
  simp only [claimNext, wp_bind, wp_ofOption, wp_ensure, wp_requireOwner, implies_true, and_true]
  intro claimUntil _ _ _ _
  have hsweep : wp (expireDue draws now)
      (fun _ st => Moves now (ShiftsBy [.expire]) (outbox s) (outbox st)) (fun _ => True) s :=
    wp_mono (fun _ _ h => h) (fun _ _ => trivial)
      (wp_expireDue (G := False) False.elim fun _ hadv => hadv.moves)
  refine wp_mono ?_ (fun _ _ => trivial) (wp_and expireDue_audited hsweep)
  rintro - st ⟨hst, hmoves⟩
  simp only [wp_get]
  split
  · exact hst
  · rename_i t e hsel
    obtain ⟨hmem, hpend, -⟩ := selectDue_mem hsel
    have hrow := targetById_of_mem hmem
    have hfirst : targetById st t.targetId = targetById s t.targetId := by
      rw [hrow]
      refine (hmoves.unexpired hrow ?_).symm
      rw [hpend]
      decide
    rw [wp_bind]
    refine wp_updateTargets t.targetId ?_ (fun _ => ⟨rfl, rfl, rfl, rfl, rfl⟩) ?_ ?_
      fun _ _ _ _ _ => trivial
    · exact fun _ => TargetRow.pinned
    · intro _
      simp
    · intro r tbl _ _ hupd
      have hdone : Audited s { st with targets := tbl } :=
        hst.rewrite hfirst hupd (not_closed_of_open rfl) rfl
      simp only [claimedDelivery, wp_bind, wp_ensure, wp_ofExcept, wp_liftDomain, wp_pure,
        implies_true, and_true]
      exact fun _ _ _ _ _ _ => hdone

theorem startTransportAttempt_audited {claimed : ClaimedDelivery} {leaseUntil : DateTime} :
    wp (startTransportAttempt draws lease claimed now leaseUntil) (fun _ u => Audited s u)
      (fun _ => True) s := by
  simp only [startTransportAttempt, wp_bind]
  refine wp_updateTargets claimed.handle.targetId ?_ (fun _ => ⟨rfl, rfl, rfl, rfl, rfl⟩) ?_ ?_
    fun _ _ _ _ _ => trivial
  · intro r hr
    simp only [Bool.and_eq_true, decide_eq_true_eq] at hr
    exact hr.1.1.1.1.1
  · intro _
    simp
  · intro r tbl _ _ hupd
    simp only [wp_ensure, wp_get, wp_ofOption, insertAttempt, wp_bind, wp_insertInto, wp_pure,
      implies_true, and_true]
    intro _ t _ _ attempts _
    exact (Audited.refl s).rewrite rfl hupd (not_closed_of_open rfl) rfl

theorem beginTransport_audited {claimed : ClaimedDelivery} {duration : TimeDelta} :
    wp (beginTransport draws lease claimed now duration) (fun _ u => Audited s u)
      (fun _ => True) s := by
  simp only [beginTransport, wp_bind, wp_ofOption, wp_ensure, wp_requireOwner, wp_get, wp_ite,
    wp_pure, wp_throw, requireClaimInTransaction, wp_requireHeld, implies_true, and_true]
  rintro leaseUntil - - - - - ⟨status, expiresAtUs, cancelled⟩ -
  refine ⟨fun _ => .refl s, fun _ => ⟨fun _ => .refl s, fun _ => ⟨trivial, fun _ => ⟨fun _ => ?_,
    fun _ => ⟨fun _ => ?_, fun _ _ _ => ?_⟩⟩⟩⟩⟩
  · exact terminalWithoutTransport_audited rfl
  · exact terminalWithoutTransport_audited rfl
  · exact startTransportAttempt_audited

theorem rejectBeforeTransport_audited {errorCode : String} :
    wp (rejectBeforeTransport draws lease handle errorCode now) (fun _ u => Audited s u)
      (fun _ => True) s := by
  simp only [rejectBeforeTransport, wp_bind, wp_ensure, wp_requireOwner, requireClaimInTransaction,
    wp_requireHeld, implies_true, and_true]
  intro _ _ _ _ _
  exact terminalWithoutTransport_audited rfl

theorem settlementReceipt_announces {attemptId : String} {settlement : Settlement}
    {status : TargetStatus} {w : SettlementWrite} {r : Receipt} (hw : dispositionOf status = .ok w)
    (h : settlementReceipt attemptId settlement w = .ok r) :
    r.fields.outcome.announces = status := by
  unfold settlementReceipt at h
  cases status <;> cases hw <;> cases settlement <;> cases h <;> rfl

theorem settle_audited {attemptId : String} {settlement : Settlement} :
    wp (settle draws lease handle attemptId settlement now) (fun _ u => Audited s u)
      (fun _ => True) s := by
  simp only [settle, wp_bind, wp_ofExcept, wp_requireOwner, requireInFlightInTransaction,
    wp_requireHeld, wp_get, wp_ensure, wp_pure, implies_true, and_true]
  intro _ _ _ _ _ hheld _
  obtain ⟨t, hmem, hp⟩ := any_eq_true.mp hheld
  simp only [Bool.and_eq_true, decide_eq_true_eq] at hp
  have ht : targetById s handle.targetId = some t :=
    outbox_targets.mpr ⟨hmem, hp.1.1.1.1.1.1⟩
  refine wp_mono (fun _ _ h => h) (fun _ _ => trivial)
    (wp_settlementPlan (G := False) ht fun plan _ _ => ?_)
  intro w hw
  cases hrc : settlementReceipt attemptId settlement w with
  | error e =>
    refine wp_mono (fun _ _ _ => ?_) (fun _ h => h) wp_trivial
    simp
  | ok receipt =>
    let K (n : Nat) : LedgerM D Unit := do
      Txn.ensure (n = 1) (.claimLost handle.targetId)
      insertReceipt (draws.receiptId handle.targetId) handle.targetId receipt now
    refine wp_mono ?_ (fun _ h => h) (wp_close (K := K) (Q := fun _ u => Audited s u)
      handle.targetId (draws.receiptId handle.targetId) receipt now ?_
      (fun _ => ⟨rfl, rfl, rfl, rfl, rfl⟩) (.refl s) rfl ?_ (fun u hu _ => hu) ?_ ?_)
    · intro n st hK
      simp only [K, wp_bind, wp_ensure] at hK
      simpa using hK
    · intro r hr
      simp only [Bool.and_eq_true, decide_eq_true_eq] at hr
      exact hr.1.1.1.1
    · intro r _ hr
      simp only [Bool.and_eq_true, decide_eq_true_eq] at hr
      refine ⟨fun heq => ?_, settlementReceipt_announces hw hrc⟩
      have hst : plan.status = .inFlight := heq.trans hr.1.1.1.2
      rw [hst] at hw
      cases hw
    · intro _
      simp [K]
    · intro u hu
      simp only [K, wp_bind, wp_ensure]
      exact ⟨fun _ => hu, fun h => absurd trivial h⟩

variable {actor : String}

theorem acknowledgeFailure_audited :
    wp (acknowledgeFailure draws targetId actor reasonCode now) (fun _ u => Audited s u)
      (fun _ => True) s := by
  simp only [acknowledgeFailure, wp_bind, wp_ensure, wp_get, wp_ofOption, wp_ite, wp_pure,
    implies_true, and_true]
  intro _ t ht _
  refine ⟨fun _ => .refl s, fun _ => ?_⟩
  refine wp_updateTargets targetId ?_ (fun _ => ⟨rfl, rfl, rfl, rfl, rfl⟩) ?_ ?_
    fun _ _ _ _ _ => trivial
  · exact fun _ => TargetRow.pinned
  · intro _
    simp
  · intro r tbl hr _ hupd
    simp only [insertOperatorAction, wp_insertInto, implies_true, and_true]
    intro _ actions _
    have hsame : ¬ Closed (targetById s targetId) (some (r.acknowledged now)) := by
      rintro ⟨u, u', hu, hu', hne, -⟩
      rw [hr] at hu
      cases hu
      cases hu'
      exact hne rfl
    exact (Audited.refl s).rewrite rfl hupd hsame rfl

/-- A replay writes an operator action, and no receipt. -/
structure Replayed (targetId : String) (s s' : Ledger D) : Prop where
  receipts : s'.receipts.rows = s.receipts.rows
  action : ∃ row, s'.operatorActions.rows = s.operatorActions.rows ++ [row] ∧
    row.targetId = targetId ∧ row.action = .replay
  others : ∀ id, id ≠ targetId → targetById s' id = targetById s id

theorem replayFailure_audited :
    wp (replayFailure draws targetId actor reasonCode now) (fun _ u => Replayed targetId s u)
      (fun _ => True) s := by
  simp only [replayFailure, wp_bind, wp_ensure, wp_get, wp_ofOption, implies_true, and_true]
  intro _ state _ _ _
  refine wp_updateTargets targetId ?_ (fun _ => ⟨rfl, rfl, rfl, rfl, rfl⟩) ?_ ?_
    fun _ _ _ _ _ => trivial
  · exact fun _ => TargetRow.pinned
  · intro _
    simp
  · intro r tbl _ _ hupd
    simp only [insertOperatorAction, wp_insertInto, implies_true, and_true]
    intro _ actions hins
    refine ⟨rfl, ⟨_, (Table.insert_ok hins).1, rfl, rfl⟩, ?_⟩
    intro id hid
    exact (congrFun hupd id).trans (Function.update_of_ne hid ..)

theorem publication_no_shift (id : String) (k : Shift) : ¬ Publication (.shift id k : Label D) := by
  rintro (⟨e, h⟩ | ⟨t, h⟩) <;> cases h

theorem Offers.audited {row : EventRow D} (h : Audited s st)
    (hm : Offers now row (outbox st) (outbox st'))
    (hold : ∀ id, targetById st id = none → targetById s id = none) : Audited s st' :=
  h.publish hm.moves publication_no_shift hold

theorem supersede_audited {n : OperatorNotificationV1} :
    wp (supersedePriorOperatorTargets draws n now) (fun _ u => Audited s u) (fun _ => True) s := by
  unfold supersedePriorOperatorTargets
  cases supersession n.role with
  | none => exact .refl s
  | some p =>
    obtain ⟨roles, reason⟩ := p
    simp only [wp_bind, wp_get]
    refine cancelAll_audited ?_ ?_
    · intro r hr
      rw [supersededTargets, mem_orderBy, mem_filter] at hr
      exact (Bool.and_eq_true_iff.mp hr.2).1
    · have hperm := perm_insertionSort (fun a b : TargetRow => a.targetId ≤ b.targetId)
        (s.targets.rows.filter fun t => t.status.unsent &&
          s.events.rows.any fun e => e.eventId = t.eventId && e.supersededBy n roles)
      exact (hperm.map (·.targetId)).nodup_iff.mpr (nodup_targetIds _)

theorem cancelEventAt_audited {eventId : String} {cancelledAt processingAt : DateTime} :
    wp (cancelEventAt draws lease eventId reasonCode cancelledAt processingAt)
      (fun _ u => Audited s u) (fun _ => True) s := by
  have hsweep : ∀ fences : Table cancellationSchema,
      wp ((unsentTargets { s with cancellations := fences } eventId).forM fun t =>
        cancelUnsent (draws.receiptId t.targetId) reasonCode "cancellation target transition"
          processingAt t) (fun _ u => Audited s u) (fun _ => True)
        { s with cancellations := fences } := by
    intro fences
    refine cancelAll_audited ?_ (nodup_targetIds _)
    intro r hr
    exact (Bool.and_eq_true_iff.mp (mem_filter.mp hr).2).2
  simp only [cancelEventAt, wp_bind, wp_ensure, wp_requireOwner, wp_insertOrIgnoreInto, wp_ite,
    wp_pure, wp_get, verifyFence, wp_queryRow, implies_true, and_true]
  exact fun _ _ _ _ => ⟨fun _ => hsweep _, fun _ _ _ _ => hsweep _⟩

section

variable [DecidableEq D] [CanonicalHash D]

theorem persistOperatorNotification_audited {n : OperatorNotificationV1} {maxAttempts : Nat} :
    wp (persistOperatorNotification draws lease n maxAttempts now) (fun _ u => Audited s u)
      (fun _ => True) s := by
  simp only [persistOperatorNotification, wp_bind, wp_liftDomain, wp_ensure,
    wp_requireOwner, wp_get,
    implies_true, and_true]
  intro _ _ hm _ _
  let row : EventRow D := notificationEventRow lease n now
  split
  · simp only [wp_ite, wp_bind, wp_fencedByCancellation, wp_insertInto, wp_pure]
    refine ⟨fun _ => .refl s, fun _ => ?_⟩
    have hsweep : wp (supersedePriorOperatorTargets draws n now)
        (fun _ st => ∃ ids, Moves now (Cancels ids) (outbox s) (outbox st)) (fun _ => True) s :=
      wp_supersede fun _ ids hadv _ => ⟨ids, hadv.moves⟩
    refine wp_mono ?_ (fun _ _ => trivial) (wp_and supersede_audited hsweep)
    rintro - mid ⟨hmid, ids, hcancels⟩
    refine ⟨fun hf => ⟨fun t hins => ?_, fun _ _ => trivial⟩, fun _ => trivial⟩
    refine publish_targets now row hm.1 rfl hf hins fun s' hp _ => ?_
    refine Offers.audited hmid (.inl hp) ?_
    intro id hnone
    cases hs : targetById s id with
    | none => rfl
    | some t =>
      obtain ⟨t', ht', -⟩ := hcancels.cancelled hs
      rw [show targetById mid id = some t' from ht'] at hnone
      cases hnone
  · rename_i stored hmatch
    simp only [wp_bind, wp_ensure, wp_pure, implies_true, and_true]
    intro hexact
    exact republish_found now row hm.1 hmatch hexact fun s' hp _ =>
      Offers.audited (.refl s) (.inr hp) fun _ h => h
  · trivial

end

/-! ## Attempts and their receipts -/

/-- Receipts settle stored attempts, attempts have different ids, and what is in flight has an
attempt that no receipt settles. -/
structure Recorded (o : Outbox D) : Prop where
  backed : ∀ r ∈ o.receipts, ∀ x, r.attemptId = some x → ∃ a ∈ o.attempts, a.attemptId = x
  distinct : ∀ a ∈ o.attempts, ∀ b ∈ o.attempts, a.attemptId = b.attemptId → a = b
  flying : ∀ id t, o.targets id = some t → t.status = .inFlight →
    ∃ a ∈ o.attempts, a.targetId = id ∧ t.currentAttemptId = some a.attemptId ∧ ¬ Settled o a

/-- What a shift records: nothing about attempts, a new attempt, or the receipt of the one in
flight. -/
inductive Records (o : Outbox D) (t t' : TargetRow) : List AttemptRow → List ReceiptRow → Prop
  | nothing {rs : List ReceiptRow} :
      t'.status ≠ .inFlight → (∀ r ∈ rs, r.attemptId = none) → Records o t t' [] rs
  | attempt {a : AttemptRow} :
      a.targetId = t.targetId → t'.currentAttemptId = some a.attemptId →
      (∀ x ∈ o.attempts, x.attemptId ≠ a.attemptId) → Records o t t' [a] []
  | receipt {r : ReceiptRow} :
      t.status = .inFlight → t'.status ≠ .inFlight → r.attemptId = t.currentAttemptId →
      Records o t t' [] [r]

theorem Shifted.records {o : Outbox D} {t' : TargetRow} {k : Shift} {as : List AttemptRow}
    {rs : List ReceiptRow} (h : Shifted now o t k t' as rs) : Records o t t' as rs := by
  have hone : ∀ {r : ReceiptRow}, Receipted t none r → ∀ x ∈ [r], x.attemptId = none := by
    intro r hr x hx
    rw [mem_singleton.mp hx]
    exact hr.attemptId
  have hnone : ∀ x ∈ ([] : List ReceiptRow), x.attemptId = none := by simp
  cases h with
  | cancel _ hr | reject _ hr | expireClaim _ hr =>
    exact .nothing (by simp [TargetRow.terminal]) (hone hr)
  | expire _ hr => exact .nothing (by simp [TargetRow.overdue]) (hone hr)
  | requeue _ hr => exact .nothing (by simp [TargetRow.requeued]) (hone hr)
  | claim => exact .nothing (by simp [TargetRow.claimedBy]) hnone
  | replay => exact .nothing (by simp [TargetRow.replayed]) hnone
  | acknowledge hs =>
    refine .nothing (fun hfl => ?_) hnone
    have hst : t.status = .inFlight := hfl
    rw [hst] at hs
    cases hs
  | start _ _ _ hfresh hopens =>
    refine .attempt hopens.targetId ?_ ?_
    · rw [hopens.attemptId]
      rfl
    · rw [hopens.attemptId]
      exact hfresh
  | giveUp hs hcur hr =>
    exact .receipt hs (by simp [TargetRow.terminal]) (hr.attemptId.trans hcur.symm)
  | @settle a plan w r hs hcur hd hr =>
    refine .receipt hs (fun hfl => ?_) (hr.attemptId.trans hcur.symm)
    rw [show plan.status = .inFlight from hfl] at hd
    cases hd

theorem Move.recorded {l : Label D} {o o' : Outbox D} (h : Move now l o o') (hn : Numbered o)
    (hr : Recorded o) : Recorded o' := by
  cases h with
  | event => exact ⟨hr.backed, hr.distinct, hr.flying⟩
  | fence => exact ⟨hr.backed, hr.distinct, hr.flying⟩
  | @target _ t _ _ hfresh =>
    refine ⟨hr.backed, hr.distinct, ?_⟩
    intro id u hu hst
    rcases target_update hu with ⟨rfl, rfl⟩ | ⟨-, hu⟩
    · obtain ⟨_, _, _, _, _, rfl⟩ := hfresh
      cases hst
    · exact hr.flying id u hu hst
  | @shift _ id k t t' as rs hlook hs =>
    have hid := hn.keyed id t hlook
    cases hs.records with
    | @nothing rs hnot hnone =>
      have hsettled : ∀ a, Settled (o.shift id t' [] rs) a → Settled o a := by
        rintro a ⟨r, hmem, hra⟩
        rcases mem_append.mp hmem with hmem | hmem
        · exact ⟨r, hmem, hra⟩
        · rw [hnone r hmem] at hra
          cases hra
      refine ⟨?_, ?_, ?_⟩
      · intro r hmem x hx
        rcases mem_append.mp hmem with hmem | hmem
        · obtain ⟨a, ha, hax⟩ := hr.backed r hmem x hx
          exact ⟨a, mem_append_left _ ha, hax⟩
        · rw [hnone r hmem] at hx
          cases hx
      · simpa [Outbox.shift] using hr.distinct
      · intro y u hu hst
        rcases target_update hu with ⟨-, rfl⟩ | ⟨-, hu⟩
        · exact absurd hst hnot
        · obtain ⟨a, ha, hat, hcur, hopen⟩ := hr.flying y u hu hst
          exact ⟨a, mem_append_left _ ha, hat, hcur, fun hset => hopen (hsettled a hset)⟩
    | @attempt a hat hcur hfresh =>
      have hsettled : ∀ b, Settled (o.shift id t' [a] []) b → Settled o b := by
        rintro b ⟨r, hmem, hrb⟩
        exact ⟨r, by simpa [Outbox.shift] using hmem, hrb⟩
      refine ⟨?_, ?_, ?_⟩
      · intro r hmem x hx
        obtain ⟨b, hb, hbx⟩ := hr.backed r (by simpa [Outbox.shift] using hmem) x hx
        exact ⟨b, mem_append_left _ hb, hbx⟩
      · intro b hb c hc heq
        rcases mem_append.mp hb with hb | hb <;> rcases mem_append.mp hc with hc | hc
        · exact hr.distinct b hb c hc heq
        · rw [mem_singleton.mp hc] at heq
          exact absurd heq (hfresh b hb)
        · rw [mem_singleton.mp hb] at heq
          exact absurd heq.symm (hfresh c hc)
        · rw [mem_singleton.mp hb, mem_singleton.mp hc]
      · intro y u hu hst
        rcases target_update hu with ⟨rfl, rfl⟩ | ⟨-, hu⟩
        · refine ⟨a, mem_append_right _ (mem_singleton_self a), hat.trans hid, hcur, ?_⟩
          -- A receipt of the new attempt would settle an older one with its id.
          intro hset
          obtain ⟨r, hmem, hra⟩ := hsettled a hset
          obtain ⟨b, hb, hba⟩ := hr.backed r hmem _ hra
          exact hfresh b hb hba
        · obtain ⟨b, hb, hbt, hbcur, hopen⟩ := hr.flying y u hu hst
          exact ⟨b, mem_append_left _ hb, hbt, hbcur, fun hset => hopen (hsettled b hset)⟩
    | @receipt r hst' hnot hra =>
      obtain ⟨a, ha, hat, hcur, -⟩ := hr.flying id t hlook hst'
      refine ⟨?_, ?_, ?_⟩
      · intro q hmem x hx
        rcases mem_append.mp hmem with hmem | hmem
        · obtain ⟨b, hb, hbx⟩ := hr.backed q hmem x hx
          exact ⟨b, mem_append_left _ hb, hbx⟩
        · rw [mem_singleton.mp hmem, hra, hcur] at hx
          exact ⟨a, mem_append_left _ ha, Option.some.inj hx⟩
      · simpa [Outbox.shift] using hr.distinct
      · intro y u hu hst
        rcases target_update hu with ⟨-, rfl⟩ | ⟨hne, hu⟩
        · exact absurd hst hnot
        · obtain ⟨b, hb, hbt, hbcur, hopen⟩ := hr.flying y u hu hst
          refine ⟨b, mem_append_left _ hb, hbt, hbcur, ?_⟩
          rintro ⟨q, hmem, hqb⟩
          rcases mem_append.mp hmem with hmem | hmem
          · exact hopen ⟨q, hmem, hqb⟩
          · -- The receipt settles the attempt of the shifted target, not this one.
            rw [mem_singleton.mp hmem, hra, hcur] at hqb
            have hab := hr.distinct a ha b hb (Option.some.inj hqb)
            rw [hab] at hat
            exact hne (hbt.symm.trans hat)

theorem countP_attempt_le (attemptId : String) {rows : List ReceiptRow}
    (hdistinct : rows.Pairwise fun a b =>
      receiptSchema.clash (receiptSchema.key a) (receiptSchema.key b) = false) :
    rows.countP (fun r => r.attemptId = some attemptId) ≤ 1 := by
  induction rows with
  | nil => simp
  | cons r rs ih =>
    rw [pairwise_cons] at hdistinct
    by_cases hr : r.attemptId = some attemptId
    · have hnone : rs.countP (fun r => r.attemptId = some attemptId) = 0 := by
        rw [countP_eq_zero]
        intro q hq hqa
        have hclash := hdistinct.1 q hq
        simp only [decide_eq_true_eq] at hqa
        simp [receiptSchema, hr, hqa] at hclash
      rw [countP_cons_of_pos (by simpa using hr), hnone]
    · rw [countP_cons_of_neg (by simpa using hr)]
      exact ih hdistinct.2

/-! ## Over every run -/

section

variable [DecidableEq D] [CanonicalHash D]

theorem Op.run_audited (op : Op D)
    (hop : ∀ draws targetId actor reasonCode now,
      op ≠ .replayFailure draws targetId actor reasonCode now) :
    wp op.run (fun _ u => Audited s u) (fun _ => True) s := by
  have hpublish : ∀ {document : Option Document} {now : DateTime} {u : Ledger D},
      OffersOther now document s u → Audited s u := by
    intro document now u h
    exact (Audited.refl s).publish h.moves publication_no_shift fun _ h => h
  have hdid := op.run_did s
  cases op
  case acquireOwner | renewOwner | refreshOwner =>
    refine wp_mono ?_ (fun _ h => h) hdid
    rintro out u ⟨lease, -, -, -, row, -, hw⟩
    exact .of_outbox hw.outbox
  case releaseOwner =>
    refine wp_mono ?_ (fun _ h => h) hdid
    rintro out u ⟨row, hw⟩
    exact .of_outbox (hw 0).outbox
  case recordIngressOnce | checkIngress | replayOperatorNotification =>
    exact wp_mono (fun _ _ h => .of_outbox h.outbox) (fun _ h => h) hdid
  case persistDecision | persistScheduledReport =>
    exact wp_mono (fun _ _ h => hpublish h) (fun _ h => h) hdid
  all_goals simp only [Op.run, wp_bind, wp_pure]
  case replayFailure => exact absurd rfl (hop _ _ _ _ _)
  case persistOperatorNotification => exact persistOperatorNotification_audited
  case cancelEventAt => exact cancelEventAt_audited
  case recoverStaleClaims => exact recoverStaleClaims_audited
  case claimNext => exact claimNext_audited
  case beginTransport => exact beginTransport_audited
  case rejectBeforeTransport => exact rejectBeforeTransport_audited
  case settle => exact settle_audited
  case acknowledgeFailure => exact acknowledgeFailure_audited

theorem step_replayed {out : Outcome} {s' : Ledger D}
    (h : step s (.replayFailure draws targetId actor reasonCode now) = (.ok out, s')) :
    Replayed targetId s s' := by
  have hrun : wp (Op.replayFailure draws targetId actor reasonCode now : Op D).run
      (fun _ u => Replayed targetId s u) (fun _ => True) s := by
    simp only [Op.run, wp_bind, wp_pure]
    exact replayFailure_audited
  exact wp_ok (Q := fun _ u => Replayed targetId s u) hrun (commit_ok h)

/-- What the receipts of a ledger record, and what every step adds to them. -/
structure ReceiptsComplete (s : Ledger D) : Prop where
  /-- The current attempt of an in-flight target has no receipt, every other attempt has one. -/
  attempts : ∀ a ∈ s.attempts.rows,
    s.receipts.rows.countP (fun r => r.attemptId = some a.attemptId) =
      if ∃ t ∈ s.targets.rows, t.status = .inFlight ∧ t.currentAttemptId = some a.attemptId
      then 0 else 1
  /-- The receipts an operation writes tell every transition it makes, and nothing else. -/
  transitions : ∀ op out s', step s op = (.ok out, s') →
    (∀ draws targetId actor reasonCode now,
      op ≠ .replayFailure draws targetId actor reasonCode now) → Audited s s'
  /-- A replay writes an operator action instead. -/
  replays : ∀ draws targetId actor reasonCode now out s',
    step s (.replayFailure draws targetId actor reasonCode now) = (.ok out, s') →
    Replayed targetId s s'

/-- What holds of the attempts of every ledger that a run reaches. -/
structure Kept (o : Outbox D) : Prop where
  numbered : Numbered o
  transporting : Transporting o
  recorded : Recorded o

theorem LedgerRun.kept {log : List (Op D × Except LedgerError Outcome)}
    (h : LedgerRun anyStep migrated log s) : Kept (outbox s) := by
  refine Run.invariant (I := fun s => Kept (outbox s)) ?_ ?_ h
  · have hinv := Invariant.migrated (D := D) 0
    exact ⟨hinv.numbered, hinv.transporting,
      ⟨fun _ h => (nomatch h), fun _ h => (nomatch h), fun _ _ h => (nomatch h)⟩⟩
  · intro s op hk _
    rcases step_cases s op with hsame | ⟨out, hdid⟩
    · rw [hsame]
      exact hk
    · refine (Op.did_moves 0 hdid).keeps (I := Kept) ?_ hk
      rintro l - a b hm ⟨hn, ht, hr⟩
      exact ⟨hm.numbered hn, hm.transporting hn ht, hm.recorded hn hr⟩

/-- **Receipts are complete** in every state that a run reaches. -/
theorem receipts_complete {log : List (Op D × Except LedgerError Outcome)}
    (h : LedgerRun anyStep migrated log s) : ReceiptsComplete s := by
  have hkept := h.kept
  refine ⟨?_, ?_, fun _ _ _ _ _ _ _ hstep => step_replayed hstep⟩
  · intro a ha
    split
    · rename_i hfly
      obtain ⟨t, ht, hst, hcur⟩ := hfly
      obtain ⟨b, hb, -, hbcur, hopen⟩ := hkept.recorded.flying _ t (targetById_of_mem ht) hst
      have hab : a.attemptId = b.attemptId := Option.some.inj (hcur.symm.trans hbcur)
      rw [countP_eq_zero]
      intro r hr hra
      rw [hab] at hra
      exact hopen ⟨r, hr, by simpa using hra⟩
    · rename_i hfly
      have hset : Settled (outbox s) a := by
        by_contra hopen
        obtain ⟨t, ht, hst, hcur⟩ := hkept.transporting a ha hopen
        exact hfly ⟨t, (outbox_targets.mp ht).1, hst, hcur⟩
      obtain ⟨r, hr, hra⟩ := hset
      have hpos : 0 < s.receipts.rows.countP (fun r => r.attemptId = some a.attemptId) :=
        countP_pos_iff.mpr ⟨r, hr, by simpa using hra⟩
      have := countP_attempt_le a.attemptId s.receipts.distinct
      omega
  · intro op out s' hstep hop
    exact wp_ok (Q := fun _ u => Audited s u) (op.run_audited hop) (commit_ok hstep)

end

theorem receipts_complete_inTransport :
    let s := (play step (migrated : Ledger Document) inTransport).2
    s.attempts.rows.length = 1 ∧ s.receipts.rows = [] ∧ ReceiptsComplete s := by
  intro s
  have htrace : s.attempts.rows.length = 1 ∧ s.receipts.rows = [] := by decide +kernel
  exact ⟨htrace.1, htrace.2, receipts_complete (Run.play (allowed_anyStep _ _))⟩

end SpxSpark.Ledger
