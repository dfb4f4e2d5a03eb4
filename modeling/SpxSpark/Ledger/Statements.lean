import SpxSpark.Ledger.Outbox

/-!
# Statements — what each statement does, as rules of the transaction logic

One rule per statement shape: inserts, updates of one target, and the receipt that follows a
target's move.
-/

open SpxSpark.Domain SpxSpark.Lib

namespace SpxSpark.Ledger

/-- The failure of a CHECK: reported as such, or swallowed by `INSERT OR IGNORE` and seen when the
row that should be there cannot be read back. -/
def FailsOnCheck (e : LedgerError) : Prop :=
  e = .sqlite (.constraint .check) ∨ e = .sqlite .queryReturnedNoRows

/-- The failure is not of a CHECK. -/
def NotCheck (e : LedgerError) : Prop := ¬ FailsOnCheck e

/-- Under `G`, no CHECK fails. -/
def Quiet (G : Prop) (e : LedgerError) : Prop := G → NotCheck e

section

variable {D Row Key : Type} {S : Schema Row Key} {s : Ledger D} {G : Prop}

open Txn

variable {Q : Unit → Ledger D → Prop} {E : LedgerError → Prop}

@[simp]
theorem wp_insertInto {get : Ledger D → Table S} {set : Table S → Ledger D → Ledger D} {row : Row} :
    wp (insertInto get set row) Q E s ↔
      (∀ t, (get s).insert row = .ok t → Q () (set t s)) ∧
        ∀ c, (get s).insert row = .error c → E (.sqlite (.constraint c)) := by
  cases h : (get s).insert row with
  | error c => simp [wp, insertInto, h]
  | ok t => simp [wp, insertInto, h]

@[simp]
theorem wp_insertOrIgnoreInto {Q : Bool → Ledger D → Prop} {get : Ledger D → Table S}
    {set : Table S → Ledger D → Ledger D} {row : Row} : wp (insertOrIgnoreInto get set row) Q E s ↔
      Q ((get s).insertOrIgnore row).1 (set ((get s).insertOrIgnore row).2 s) := Iff.rfl

@[simp]
theorem wp_queryRow {α : Type} {Q : α → Ledger D → Prop} {found : Option α} :
    wp (queryRow found) Q E s ↔
      (∀ a, found = some a → Q a s) ∧ (found = none → E (.sqlite .queryReturnedNoRows)) :=
  wp_ofOption ..

@[simp]
theorem wp_liftDomain {α : Type} {Q : α → Ledger D → Prop} {x : Except DomainError α} :
    wp (liftDomain x) Q E s ↔ (∀ a, x = .ok a → Q a s) ∧ ∀ e, x = .error e → E (.domain e) := by
  cases x with
  | error e => simp [liftDomain]
  | ok a => simp [liftDomain]

@[simp]
theorem wp_requireOwner {lease : OwnerLease} {expected : OwnerRole} {now : DateTime} :
    wp (requireOwnerInTransaction lease expected now) Q E s ↔
      (lease.role = expected → holdsRole s lease now = true → Q () s) ∧
        (lease.role ≠ expected → E (.ownerRoleMismatch expected lease.role)) ∧
        (lease.role = expected → holdsRole s lease now = false →
          E (.ownerLeaseLost lease.role)) := by
  simp only [requireOwnerInTransaction, wp_bind, wp_ensure, wp_get]
  constructor
  · rintro ⟨hok, hrole⟩
    refine ⟨fun h => (hok h).1, hrole, fun h hl => (hok h).2 ?_⟩
    rw [hl]
    exact Bool.false_ne_true
  · rintro ⟨hok, hrole, hlost⟩
    refine ⟨fun h => ⟨hok h, fun hl => hlost h ?_⟩, hrole⟩
    simpa using hl

/-! ## Updating one target -/

variable {p : TargetRow → Bool} {targetId : String}

theorem countP_target {rows : List TargetRow} (hp : ∀ r, p r = true → r.targetId = targetId)
    (hd : rows.Pairwise fun a b =>
      targetSchema.clash (targetSchema.key a) (targetSchema.key b) = false)
    {r : TargetRow} (hr : r ∈ rows) (hpr : p r = true) : rows.countP p = 1 := by
  obtain ⟨pre, post, rfl⟩ := List.append_of_mem hr
  rw [List.pairwise_append, List.pairwise_cons] at hd
  obtain ⟨-, ⟨hpost, -⟩, hpre⟩ := hd
  have hclash : ∀ a b : TargetRow, p a = true → p b = true →
      targetSchema.clash (targetSchema.key a) (targetSchema.key b) = true := by
    intro a b ha hb
    simp [targetSchema, hp a ha, hp b hb]
  have hpre0 : pre.countP p = 0 := by
    rw [List.countP_eq_zero]
    intro a ha hpa
    have := hpre a ha r (List.mem_cons_self ..)
    rw [hclash a r hpa hpr] at this
    exact absurd this (by decide)
  have hpost0 : post.countP p = 0 := by
    rw [List.countP_eq_zero]
    intro b hb hpb
    have := hpost b hb
    rw [hclash r b hpr hpb] at this
    exact absurd this (by decide)
  rw [List.countP_append, List.countP_cons_of_pos hpr, hpre0, hpost0]

variable {f : TargetRow → TargetRow}

theorem targetById_update {r : TargetRow} {t : Table targetSchema}
    (hp : ∀ r, p r = true → r.targetId = targetId) (hf : ∀ r, SameTarget r (f r))
    (hr : targetById s targetId = some r) (hpr : p r = true)
    (ht : t.rows = s.targets.rows.map (Table.rewrite p f)) :
    targetById { s with targets := t } = Function.update (targetById s) targetId (some (f r)) := by
  obtain ⟨hmem, hid⟩ := targetById_some hr
  funext x
  refine Option.ext fun u => ?_
  have hl : targetById { s with targets := t } x = some u ↔
      u ∈ t.rows ∧ u.targetId = x := outbox_targets (s := { s with targets := t })
  rw [hl, ht, Table.mem_rewrite]
  by_cases hx : x = targetId
  · subst hx
    rw [Function.update_self]
    constructor
    · rintro ⟨⟨hu, hpu⟩ | ⟨v, hv, hpv, rfl⟩, hux⟩
      · have := eq_of_targetId hu hmem (hux.trans hid.symm)
        rw [this, hpr] at hpu
        cases hpu
      · rw [eq_of_targetId hv hmem ((hp v hpv).trans hid.symm)]
    · intro h
      cases h
      exact ⟨.inr ⟨r, hmem, hpr, rfl⟩, (hf r).targetId.trans hid⟩
  · rw [Function.update_of_ne hx]
    have hl' : targetById s x = some u ↔ u ∈ s.targets.rows ∧ u.targetId = x := outbox_targets
    rw [hl']
    constructor
    · rintro ⟨⟨hu, -⟩ | ⟨v, hv, hpv, rfl⟩, hux⟩
      · exact ⟨hu, hux⟩
      · rw [(hf v).targetId, hp v hpv] at hux
        exact absurd hux.symm hx
    · rintro ⟨hu, hux⟩
      refine ⟨.inl ⟨hu, ?_⟩, hux⟩
      cases hpu : p u with
      | false => rfl
      | true => exact absurd (hux.symm.trans (hp u hpu)) hx

theorem wp_updateTargets {Q : Nat → Ledger D → Prop} (targetId : String)
    (hp : ∀ r, p r = true → r.targetId = targetId) (hf : ∀ r, SameTarget r (f r))
    (hnone : (∀ r, targetById s targetId = some r → p r = false) → Q 0 s)
    (hone : ∀ r t, targetById s targetId = some r → p r = true →
      targetById { s with targets := t } = Function.update (targetById s) targetId (some (f r)) →
      Q 1 { s with targets := t })
    (hcheck : ∀ r, targetById s targetId = some r → p r = true → r.check = true →
      (f r).check = false → E (.sqlite (.constraint .check))) :
    wp (updateTargets p f) Q E s := by
  have hkey : ∀ r, targetSchema.key (f r) = targetSchema.key r := by
    intro r
    simp [targetSchema, (hf r).targetId, (hf r).eventId, (hf r).targetKey]
  unfold wp updateTargets updateIn
  cases hu : s.targets.update p f with
  | error c =>
    obtain ⟨rfl, r, hr, hpr, hbad⟩ := Table.update_error hkey hu
    have hrow := targetById_of_mem hr
    rw [hp r hpr] at hrow
    exact hcheck r hrow hpr (s.targets.checked r hr) hbad
  | ok res =>
    obtain ⟨n, t⟩ := res
    obtain ⟨ht, hn⟩ := Table.update_ok hu
    by_cases hex : ∃ r ∈ s.targets.rows, p r = true
    · obtain ⟨r, hr, hpr⟩ := hex
      have hrow := targetById_of_mem hr
      rw [hp r hpr] at hrow
      rw [countP_target hp s.targets.distinct hr hpr] at hn
      subst hn
      exact hone r t hrow hpr (targetById_update hp hf hrow hpr ht)
    · have hnot : ∀ r ∈ s.targets.rows, p r = false := by
        intro r hr
        simpa using fun h => hex ⟨r, hr, h⟩
      have hn0 : n = 0 := by
        rw [hn, List.countP_eq_zero]
        intro r hr
        simp [hnot r hr]
      have hts : t = s.targets := by
        refine Table.ext ?_
        rw [ht, Table.map_rewrite_of_none hnot]
      subst hn0 hts
      exact hnone fun r hr => hnot r (targetById_some hr).1

/-! ## Receipts -/

variable {receiptId : Uuid} {receipt : Receipt}

theorem wireReceipt_ok {target : TargetRow} {now : DateTime} {wire : DeliveryReceiptV1}
    (h : wireReceipt receiptId target receipt now = .ok wire) :
    (receiptRow receiptId target receipt now wire).payloadColumns = true ∧
      sqlNonBlank target.eventId = true ∧ sqlNonBlank target.targetKey = true ∧
      (receipt.outcome ≠ .delivered → sqlNonBlank receipt.fields.reasonCode = true) := by
  simp only [wireReceipt, bind_ok] at h
  obtain ⟨tid, htid, iid, hiid, key, hkey, pid, hpid, err, herr, ⟨⟩, -, h⟩ := h
  cases h
  have htid := Token.new_value htid
  have hiid := Token.new_value hiid
  have hkey := Token.new_value hkey
  have hpid : pid.map (·.value) = receipt.fields.providerMessageId := by
    cases hp : receipt.fields.providerMessageId with
    | none =>
      rw [hp] at hpid
      cases hpid
      rfl
    | some v =>
      rw [hp] at hpid
      obtain ⟨tok, htok, hpid⟩ := bind_ok.mp hpid
      cases hpid
      simp [Token.new_value htok]
  have herr : if receipt.outcome = .delivered then err = none
      else ∃ tok : Token, err = some tok ∧ tok.value = receipt.fields.reasonCode := by
    by_cases ho : receipt.outcome = .delivered
    · rw [if_pos ho] at herr ⊢
      cases herr
      rfl
    · rw [if_neg ho] at herr ⊢
      obtain ⟨tok, htok, herr⟩ := bind_ok.mp herr
      cases herr
      exact ⟨tok, rfl, Token.new_value htok⟩
  have hdel : receipt.fields.outcome = .delivered ↔ receipt.outcome = .delivered := by
    cases receipt <;> simp [Receipt.fields, Receipt.outcome]
  refine ⟨?_, ?_, ?_, ?_⟩
  · simp only [ReceiptRow.payloadColumns, receiptRow, htid, hiid, hkey, hpid, beq_self_eq_true,
      receipt.wire_outcome, Bool.and_true, Bool.true_and, hdel]
    by_cases ho : receipt.outcome = .delivered
    · rw [if_pos ho] at herr ⊢
      simp [herr]
    · rw [if_neg ho] at herr ⊢
      obtain ⟨tok, rfl, hv⟩ := herr
      simp [hv]
  · rw [← hiid]
    exact sqlNonBlank_token iid
  · rw [← hkey]
    exact sqlNonBlank_token key
  · intro ho
    rw [if_neg ho] at herr
    obtain ⟨tok, -, hv⟩ := herr
    rw [← hv]
    exact sqlNonBlank_token tok

theorem receiptRow_check {target : TargetRow} {now : DateTime} {wire : DeliveryReceiptV1}
    (hnow : 0 < micros now) (h : wireReceipt receiptId target receipt now = .ok wire) :
    (receiptRow receiptId target receipt now wire).check = true := by
  obtain ⟨hpay, hev, hkey, hreason⟩ := wireReceipt_ok h
  have hid := sqlNonBlank_token receiptId
  simp only [ReceiptRow.check, hpay]
  cases receipt <;>
    simp_all [receiptRow, Receipt.fields, Receipt.outcome, ReceiptRow.attemptedColumns]
  all_goals decide

/-- `insert_receipt` for a target whose row is known. -/
theorem wp_insertReceipt {now : DateTime} {t : TargetRow} (ht : targetById s targetId = some t)
    (hnow : G → 0 < micros now)
    (hok : ∀ r tbl, Receipted t receipt.attemptId r → tbl.rows = s.receipts.rows ++ [r] →
      Q () { s with receipts := tbl }) :
    wp (insertReceipt receiptId targetId receipt now) Q (Quiet G) s := by
  simp only [insertReceipt, insertReceiptRow, wp_bind, wp_get, wp_queryRow, wp_liftDomain,
    wp_ensure,
    wp_insertInto, ht, Option.some.injEq, forall_eq', reduceCtorEq, false_implies, and_true]
  refine ⟨?_, ?_⟩
  · intro wire hwire
    refine ⟨?_, ?_⟩
    · intro _
      refine ⟨?_, ?_⟩
      · intro tbl hins
        exact hok _ tbl ⟨rfl, rfl⟩ (Table.insert_ok hins).1
      · intro c hins hG he
        obtain ⟨-, hbad⟩ | ⟨rfl, -⟩ := Table.insert_error hins
        · rw [show receiptSchema.check = ReceiptRow.check from rfl,
            receiptRow_check (hnow hG) hwire] at hbad
          cases hbad
        · simp [FailsOnCheck] at he
    · intro _ _ he
      simp [FailsOnCheck] at he
  · intro e _ _ he
    simp [FailsOnCheck] at he

theorem TargetRow.pinned {r : TargetRow} {more : Bool}
    (h : (decide (r.targetId = targetId) && more) = true) : r.targetId = targetId :=
  of_decide_eq_true (Bool.and_eq_true_iff.mp h).1

section Shift

variable {now : DateTime} {K : Nat → LedgerM D Unit} {err : LedgerError} (k : Shift)
  (receiptId : Uuid) (receipt : Receipt)
  (hp : ∀ r, p r = true → r.targetId = targetId) (hf : ∀ r, SameTarget r (f r))
  (hnow : G → 0 < micros now)
  (hcheck : ∀ r, targetById s targetId = some r → p r = true → r.check = true → G →
    (f r).check = true)
  (hshift : ∀ r rr, targetById s targetId = some r → p r = true →
    Receipted r receipt.attemptId rr → Shifted now (outbox s) r k (f r) [] [rr])
  (hok : ∀ r s', targetById s targetId = some r → p r = true →
    Move now (.shift targetId k) (outbox s) (outbox s') → s'.runtimeOwners = s.runtimeOwners →
    (outbox s').targets = Function.update (outbox s).targets targetId (some (f r)) → Q () s')

include hp hf hnow hcheck hshift hok

/-- A statement that rewrites one target, followed by its receipt, is one move of the outbox; `K`
is what the program does with the number of rows it matched. -/
theorem wp_shiftWith
    (hnone : (∀ r, targetById s targetId = some r → p r = false) → wp (K 0) Q (Quiet G) s)
    (hone : ∀ st, wp (insertReceipt receiptId targetId receipt now) Q (Quiet G) st →
      wp (K 1) Q (Quiet G) st) :
    wp (updateTargets p f) (fun n st => wp (K n) Q (Quiet G) st) (Quiet G) s := by
  refine wp_updateTargets targetId hp hf hnone ?_ ?_
  · intro r t hr hpr hlook
    have hrow : targetById { s with targets := t } targetId = some (f r) := by
      rw [hlook, Function.update_self]
    refine hone _ (wp_insertReceipt hrow hnow ?_)
    intro rr tbl hrr htbl
    have hrr' : Receipted r receipt.attemptId rr := ⟨hrr.1.trans (hf r).targetId, hrr.2⟩
    have hout : outbox { s with targets := t, receipts := tbl } =
        (outbox s).shift targetId (f r) [] [rr] := by
      simp only [outbox, Outbox.shift, htbl, List.append_nil, ← hlook]
      rfl
    refine hok r _ hr hpr ?_ rfl ?_
    · rw [hout]
      exact .shift hr (hshift r rr hr hpr hrr')
    · rw [hout]
      rfl
  · intro r hr hpr hrc hbad hG
    rw [hcheck r hr hpr hrc hG] at hbad
    cases hbad

/-- The form most operations use: exactly one row must have matched. -/
theorem wp_shift (herr : NotCheck err) : wp (do
        let changed ← updateTargets p f
        Txn.ensure (changed = 1) err
        insertReceipt receiptId targetId receipt now) Q (Quiet G) s := by
  rw [wp_bind]
  refine wp_shiftWith k receiptId receipt hp hf hnow hcheck hshift hok ?_ ?_
  · intro _
    simp [Quiet, herr]
  · intro st hst
    rw [wp_bind, wp_ensure]
    exact ⟨fun _ => hst, fun h => absurd rfl h⟩

end Shift

end

end SpxSpark.Ledger
