import SpxSpark.Ledger.Supersession

/-!
# Targets — which listed targets a write really creates

A target row is keyed by the text `event_id:target_key` and written with `INSERT OR IGNORE`, so a
row of another event whose two tokens join to the same text swallows it.
-/

open SpxSpark.Domain SpxSpark.Lib

namespace SpxSpark.Ledger

open Txn

variable {D : Type}

/-! ## What a call lists -/

/-- The event id and the target keys that a call lists. -/
def Op.listed : Op D → List (Token × Token)
  | .persistDecision _ _ intent _ =>
    intent.toList.flatMap fun i => i.targets.map fun x => (i.intentId, x.key)
  | .persistScheduledReport _ intent _ => intent.targets.map fun x => (intent.intentId, x.key)
  | .persistOperatorNotification _ _ n _ _ => n.targets.map fun x => (n.eventId, x.key)
  | _ => []

/-- The answer `Inserted`. -/
def Outcome.isInserted : Outcome → Bool
  | .persisted .inserted | .notified .inserted => true
  | _ => false

/-- A pending row for this event and this key is stored. -/
def PendingFor (s : Ledger D) (eventId targetKey : String) : Prop :=
  ∃ t ∈ s.targets.rows, t.eventId = eventId ∧ t.targetKey = targetKey ∧ t.status = .pending

instance (s : Ledger D) (eventId targetKey : String) :
    Decidable (PendingFor s eventId targetKey) := by
  unfold PendingFor
  infer_instance

/-- No stored row holds the id `event_id:target_key`, unless it is that target, still pending. -/
def Unclaimed (o : Outbox D) (eventId targetKey : String) : Prop :=
  ∀ t, o.targets (targetIdOf eventId targetKey) = some t →
    t.eventId = eventId ∧ t.targetKey = targetKey ∧ t.status = .pending

/-! ## What inserting targets leaves -/

variable {eventId : String}

theorem targetIdOf_inj {a b : String} (h : targetIdOf eventId a = targetIdOf eventId b) :
    a = b := by
  have hlist := congrArg String.toList h
  simp only [targetIdOf, String.toList_append] at hlist
  exact String.toList_injective (List.append_cancel_left hlist)

/-- A label that adds an event, a target of `eventId`, or cancels a target. -/
def Announces (eventId : String) (l : Label D) : Prop :=
  (∃ e, l = .event e) ∨ AddsTargetOf eventId l

theorem Moves.announced {now : DateTime} {o o' : Outbox D} (h : Moves now (Announces eventId) o o')
    (id : String) : o'.targets id = o.targets id ∨
      (o.targets id = none ∧ ∃ t, o'.targets id = some t ∧ t.eventId = eventId ∧ Fresh t) := by
  let R (a b : Outbox D) : Prop := b.targets id = a.targets id ∨
    (a.targets id = none ∧ ∃ t, b.targets id = some t ∧ t.eventId = eventId ∧ Fresh t)
  refine h.relates (R := R) (fun _ => .inl rfl) ?_ ?_
  · rintro a b c hab (hbc | ⟨hn, hbc⟩)
    · rcases hab with hab | ⟨hn, hab⟩
      · exact .inl (hbc.trans hab)
      · exact .inr ⟨hn, by rw [hbc]; exact hab⟩
    · rcases hab with hab | ⟨-, t, ht, -⟩
      · exact .inr ⟨hab.symm.trans hn, hbc⟩
      · rw [ht] at hn
        cases hn
  · intro l hl a b hm
    rcases hm.target_cases id with he | ⟨t, rfl, -, hn, ht, hf, -⟩ | ⟨k, t, u, as, rs, rfl, -⟩
    · exact .inl he
    · rcases hl with ⟨e, hl⟩ | ⟨u, hl, hev⟩
      · cases hl
      · cases hl
        exact .inr ⟨hn, t, ht, hev, hf⟩
    · rcases hl with ⟨e, hl⟩ | ⟨u, hl, -⟩
      · cases hl
      · cases hl

/-- A target that an announcement left stored is pending under its own event and key exactly when
its id was unclaimed. -/
theorem pendingFor_iff {now : DateTime} {o : Outbox D} {s' : Ledger D} {targetKey : String}
    (hm : Moves now (Announces eventId) o (outbox s')) (hk : Keyed o)
    (hhas : (outbox s').targets (targetIdOf eventId targetKey) ≠ none) :
    PendingFor s' eventId targetKey ↔ Unclaimed o eventId targetKey := by
  have hk' : Keyed (outbox s') := hm.keyed hk
  have hlook : ∀ t ∈ s'.targets.rows, t.eventId = eventId → t.targetKey = targetKey →
      (outbox s').targets (targetIdOf eventId targetKey) = some t := by
    rintro t ht rfl rfl
    have hrow := targetById_of_mem ht
    rw [(hk'.targetId _ t hrow).2] at hrow
    exact hrow
  rcases hm.announced (targetIdOf eventId targetKey) with hsame | ⟨hnone, t, ht, hev, hfresh⟩
  · -- The row that held the id before still does.
    constructor
    · rintro ⟨t, ht, hev, hkey, hst⟩ u hu
      have hrow := hlook t ht hev hkey
      rw [hsame, hu] at hrow
      cases hrow
      exact ⟨hev, hkey, hst⟩
    · intro hfree
      obtain ⟨t, ht⟩ := Option.ne_none_iff_exists'.mp hhas
      obtain ⟨hev, hkey, hst⟩ := hfree t (hsame.symm.trans ht)
      exact ⟨t, (outbox_targets.mp ht).1, hev, hkey, hst⟩
  · -- The id was free, and the row that holds it now was just written.
    obtain ⟨hid, hjoin⟩ := hk'.targetId _ t ht
    have hkey : t.targetKey = targetKey := by
      rw [hev] at hjoin
      exact (targetIdOf_inj hjoin).symm
    have hst : t.status = .pending := by
      obtain ⟨ev, m, at', x, -, rfl⟩ := hfresh
      rfl
    constructor
    · rintro - u hu
      rw [hnone] at hu
      cases hu
    · intro _
      exact ⟨t, (outbox_targets.mp ht).1, hev, hkey, hst⟩

/-- `insert_targets` for a stored event keeps its promise exactly where the ids are unclaimed. -/
def KeepsListed (eventId : String) (targets : List NotificationTargetV1) (s s' : Ledger D) : Prop :=
  ∀ x ∈ targets, PendingFor s' eventId x.key.value ↔ Unclaimed (outbox s) eventId x.key.value

section

variable {s : Ledger D}

variable {maxAttempts : Nat}

theorem insertTargets_keeps {targets : List NotificationTargetV1} {createdAt : DateTime}
    (hk : Keyed (outbox s)) (hm : 0 < maxAttempts) (hev : ∃ e ∈ s.events.rows, e.eventId = eventId)
    (he : sqlNonBlank eventId = true) (hc : 0 < micros createdAt) :
    wp (insertTargets eventId (sortedTargets targets) maxAttempts createdAt)
      (fun _ s' => KeepsListed eventId targets s s') (fun _ => True) s := by
  refine wp_insertTargets createdAt hm hev ?_
  intro t hadv hocc _ x hx
  have hmoves : Moves createdAt (Announces eventId) _ _ := hadv.moves.mono fun l hl => .inr hl
  refine pendingFor_iff hmoves hk ?_
  exact hocc hk he hc x (by simpa [sortedTargets] using hx)

theorem insertTargets_keeps_new (row : EventRow D) {t : Table (eventSchema D)}
    {targets : List NotificationTargetV1} {createdAt : DateTime} (hk : Keyed (outbox s))
    (hm : 0 < maxAttempts) (hat : row.occurredAtUs = micros createdAt)
    (hf : ∀ c ∈ s.cancellations.rows, c.eventId ≠ row.eventId) (hi : s.events.insert row = .ok t) :
    wp (insertTargets row.eventId (sortedTargets targets) maxAttempts createdAt)
      (fun _ s' => KeepsListed row.eventId targets s s') (fun _ => True)
      { s with events := t } := by
  have hmove : Move createdAt (.event row) (outbox s) (outbox { s with events := t }) :=
    event_move hf hi
  obtain ⟨hmem, hchecked⟩ := event_stored hi
  refine wp_mono (fun _ _ h => ?_) (fun _ h => h) (insertTargets_keeps (hmove.keyed hk) hm
    ⟨row, hmem, rfl⟩ hchecked.1 (hat ▸ hchecked.2))
  exact h

end

/-! ## What the three writes leave -/

section

variable [DecidableEq D] [CanonicalHash D] {s : Ledger D} {now : DateTime}

variable {lease : OwnerLease}

theorem insertIntent_keeps {intent : NotificationIntentV1} (hk : Keyed (outbox s))
    (hv : intent.validate = .ok ()) (hc : 0 < micros intent.createdAt) :
    wp (insertIntent lease intent now)
      (fun _ s' => KeepsListed intent.intentId.value intent.targets s s') (fun _ => True) s := by
  have hm := intent.maxAttempts_pos hv
  simp only [insertIntent, wp_bind, wp_fencedByCancellation, wp_insertOrIgnoreInto, wp_ite]
  refine ⟨fun hf => ⟨fun hins => ?_, fun hins => ?_⟩, fun _ => trivial⟩
  · rw [wp_pure]
    exact insertTargets_keeps_new (intentEventRow lease intent now) hk hm rfl hf
      (Table.insertOrIgnore_true hins)
  · have hsame := (Table.insertOrIgnore_false (by simpa using hins)).1
    simp only [hsame, verifyIntentHash, wp_bind, wp_get, wp_queryRow, wp_ensure]
    refine ⟨fun existing hex => ⟨fun _ => ⟨fun _ => ?_, fun _ => trivial⟩, fun _ => trivial⟩,
      fun _ => trivial⟩
    have hmem := List.mem_of_find?_eq_some hex
    have hid : existing.eventId = intent.intentId.value := by
      simpa using List.find?_some hex
    exact insertTargets_keeps hk hm ⟨existing, hmem, hid⟩ (sqlNonBlank_token _) hc

theorem persistDecision_keeps {decision : StrategyDecisionV1} {intent : Option NotificationIntentV1}
    (hk : Keyed (outbox s)) :
    wp (persistDecision lease decision intent now)
      (fun w s' => w = .inserted → ∀ i ∈ intent, KeepsListed i.intentId.value i.targets s s')
      (fun _ => True) s := by
  cases intent with
  | none => exact wp_mono (fun _ _ _ _ i hi => nomatch hi) (fun _ h => h) wp_trivial
  | some i =>
    simp only [persistDecision, Option.toList_some, List.forM_eq_forM, List.forM_cons,
      List.forM_nil, wp_bind, wp_pure, checkIntentOf, wp_liftDomain, wp_ensure, wp_requireOwner,
      wp_insertOrIgnoreInto, wp_ite, implies_true, and_true]
    intro _ _ _ hv _ _ htimes _ _
    refine ⟨fun hins => ?_, fun hins => ?_⟩
    · obtain ⟨-, hcheck, -⟩ := Table.insert_ok (Table.insertOrIgnore_true hins)
      have hc : 0 < micros i.createdAt := by
        simp only [decisionSchema, decisionRow, Bool.and_eq_true, decide_eq_true_eq] at hcheck
        rw [htimes.1]
        tauto
      refine wp_mono (fun _ _ h => ?_) (fun _ h => h) (insertIntent_keeps ?_ hv hc)
      · rintro - j hj
        cases hj
        exact h
      · exact ⟨hk.targetId, hk.event⟩
    · simp only [verifyDecisionHash, wp_bind, wp_get, wp_queryRow, wp_ensure]
      refine ⟨fun _ _ => ⟨fun _ => ?_, fun _ => trivial⟩, fun _ => trivial⟩
      refine wp_mono (fun _ _ _ hw => ?_) (fun _ h => h) wp_trivial
      simp [hins] at hw

theorem persistScheduledReport_keeps {intent : NotificationIntentV2} (hk : Keyed (outbox s)) :
    wp (persistScheduledReport lease intent now)
      (fun w s' => w = .inserted → KeepsListed intent.intentId.value intent.targets s s')
      (fun _ => True) s := by
  simp only [persistScheduledReport, wp_bind, wp_liftDomain]
  refine ⟨fun _ hv => ?_, fun _ _ => trivial⟩
  have hm := intent.maxAttempts_pos hv
  cases intent.lineage with
  | tradeReady => trivial
  | scheduledReport source slot =>
    simp only [wp_bind, wp_requireOwner, wp_get]
    refine ⟨fun _ _ => ?_, fun _ => trivial, fun _ _ => trivial⟩
    split
    · simp only [wp_bind, wp_fencedByCancellation, wp_insertInto, wp_pure]
      refine ⟨fun hf => ⟨fun t hins => ?_, fun _ _ => trivial⟩, fun _ => trivial⟩
      refine wp_mono (fun _ _ h _ => h) (fun _ h => h) ?_
      exact insertTargets_keeps_new (reportEventRow lease intent source slot now) hk hm
        rfl hf hins
    · simp only [wp_bind, wp_ensure, wp_pure]
      refine ⟨fun _ => ?_, fun _ => trivial⟩
      exact wp_mono (fun _ _ _ hw => by cases hw) (fun _ h => h) wp_trivial
    · trivial

theorem persistOperatorNotification_keeps {draws : Draws} {n : OperatorNotificationV1}
    (hk : Keyed (outbox s)) :
    wp (persistOperatorNotification draws lease n maxAttempts now)
      (fun w s' => w = .inserted → KeepsListed n.eventId.value n.targets s s')
      (fun _ => True) s := by
  refine wp_mono ?_ (fun _ h => h) persistOperatorNotification_spec
  rintro w s' ⟨-, hw⟩ rfl
  cases hw with
  | @inserted ids row mid _ _ hn _ hid hcancels _ hpub =>
    have hkm : Keyed mid := hcancels.keyed hk
    intro x hx
    have hpayload : row.payload.targets = n.targets := by
      unfold EventRow.notification? at hn
      split at hn
      · rename_i heq
        cases hn
        rw [heq]
        rfl
      · cases hn
    -- The event is new, so no stored target is one of its own.
    have hfresh : ∀ id t, mid.targets id = some t → t.eventId ≠ row.eventId := by
      intro id t ht heq
      obtain ⟨e, he, hev⟩ := hkm.event id t ht
      exact hpub.fresh e he (hev.trans heq)
    have hmoves : Moves _ (Announces row.eventId) _ _ := hpub.moves.mono fun l hl =>
      hl.imp (fun he => ⟨row, he⟩) id
    have hhas := hpub.occupied hkm x (hpayload ▸ hx)
    rw [← hid, pendingFor_iff hmoves hkm hhas]
    constructor
    · intro hfree t ht
      obtain ⟨t', ht', hsame, -⟩ := hcancels.cancelled ht
      exact absurd (hfree t' ht').1 (hfresh _ t' ht')
    · intro hfree t ht
      refine absurd ?_ (hfresh _ t ht)
      cases hold : (outbox s).targets (targetIdOf row.eventId x.key.value) with
      | none =>
        obtain ⟨u, hu⟩ := hcancels.target_old not_cancels_target ht
        rw [hold] at hu
        cases hu
      | some u =>
        obtain ⟨u', hu', hsame, -⟩ := hcancels.cancelled hold
        rw [ht] at hu'
        cases hu'
        exact hsame.eventId.trans (hfree u hold).1

end

/-! ## Over every run -/

section

variable [DecidableEq D] [CanonicalHash D]

theorem LedgerRun.keyed {s : Ledger D} {log : List (Op D × Except LedgerError Outcome)}
    (h : LedgerRun anyStep migrated log s) : Keyed (outbox s) := by
  refine Run.invariant (I := fun s => Keyed (outbox s)) ?_ ?_ h
  · exact ⟨fun _ _ h => (nomatch h), fun _ _ h => (nomatch h)⟩
  · intro s op hk _
    rcases step_cases s op with hsame | ⟨out, hdid⟩
    · rw [hsame]
      exact hk
    · exact (Op.did_moves 0 hdid).keyed hk

theorem Op.run_keeps (op : Op D) {s : Ledger D} (hk : Keyed (outbox s)) :
    wp op.run (fun out s' => out.isInserted = true → ∀ p ∈ op.listed,
      PendingFor s' p.1.value p.2.value ↔ Unclaimed (outbox s) p.1.value p.2.value)
      (fun _ => True) s := by
  cases op
  case persistDecision lease decision intent now =>
    simp only [Op.run, wp_bind, wp_pure]
    refine wp_mono ?_ (fun _ h => h) (persistDecision_keeps hk)
    intro w s' h hins p hp
    obtain ⟨i, hi, hp⟩ := List.mem_flatMap.mp hp
    obtain ⟨x, hx, rfl⟩ := List.mem_map.mp hp
    refine h ?_ i (by simpa using hi) x hx
    cases w <;> simp_all [Outcome.isInserted]
  case persistScheduledReport lease intent now =>
    simp only [Op.run, wp_bind, wp_pure]
    refine wp_mono ?_ (fun _ h => h) (persistScheduledReport_keeps hk)
    intro w s' h hins p hp
    obtain ⟨x, hx, rfl⟩ := List.mem_map.mp hp
    refine h ?_ x hx
    cases w <;> simp_all [Outcome.isInserted]
  case persistOperatorNotification draws lease n maxAttempts now =>
    simp only [Op.run, wp_bind, wp_pure]
    refine wp_mono ?_ (fun _ h => h) (persistOperatorNotification_keeps hk)
    intro w s' h hins p hp
    obtain ⟨x, hx, rfl⟩ := List.mem_map.mp hp
    refine h ?_ x hx
    cases w <;> simp_all [Outcome.isInserted]
  all_goals exact wp_mono (fun _ _ _ _ p hp => by cases hp) (fun _ h => h) wp_trivial

/-- **Listed targets.** In every state that a run reaches, a write that answers `Inserted` leaves a
pending row for every target it lists exactly when the ids of these rows were unclaimed before. -/
theorem listed_targets_kept {s s' : Ledger D} {op : Op D} {out : Outcome}
    {log : List (Op D × Except LedgerError Outcome)} (h : LedgerRun anyStep migrated log s)
    (hstep : step s op = (.ok out, s')) (hins : out.isInserted = true) :
    (∀ p ∈ op.listed, PendingFor s' p.1.value p.2.value) ↔
      ∀ p ∈ op.listed, Unclaimed (outbox s) p.1.value p.2.value := by
  have hkeeps := wp_ok (op.run_keeps h.keyed) (commit_ok hstep) hins
  exact forall₂_congr hkeeps

end

/-- The setup of an opportunity of its own, with one target. -/
def setupNote (eventId targetKey : Token) : OperatorNotificationV1 :=
  { deskNote .setup eventId with opportunityId := eventId, targets := [⟨targetKey, .bark⟩] }

/-- Two setups in turn, the second with the given target key. -/
def twoSetups (targetKey : Token) : List (Op Document) :=
  [.acquireOwner .core "core-process-0001" 1000000000 99000000000,
    .persistOperatorNotification (drawsOf setupEvent) coreLease
      (setupNote ⟨"setup:1", by decide, by decide, by decide⟩ barkKey) 3 2000000000,
    .persistOperatorNotification (drawsOf exitEvent) coreLease
      (setupNote ⟨"setup", by decide, by decide, by decide⟩ targetKey) 3 3000000000]

theorem listed_targets_kept_twoSetups :
    let s := (play step (migrated : Ledger Document) (twoSetups barkKey)).2
    PendingFor s "setup:1" "bark" ∧ PendingFor s "setup" "bark" := by
  intro s
  let s₂ := (play step (migrated : Ledger Document) ((twoSetups barkKey).take 2)).2
  let op : Op Document := (twoSetups barkKey).get ⟨2, by decide⟩
  have htrace : (step s₂ op).1 = .ok (.notified .inserted) ∧ PendingFor s "setup:1" "bark" ∧
      ∀ p ∈ op.listed, targetById s₂ (targetIdOf p.1.value p.2.value) = none := by
    decide +kernel
  obtain ⟨hout, hfirst, hfree⟩ := htrace
  refine ⟨hfirst, ?_⟩
  have hkept := listed_targets_kept (Run.play (allowed_anyStep _ _)) (step_answered hout) rfl
  refine hkept.mpr ?_ (⟨"setup", by decide, by decide, by decide⟩, barkKey) (by decide)
  intro p hp t ht
  have : (outbox s₂).targets (targetIdOf p.1.value p.2.value) = none := hfree p hp
  rw [this] at ht
  cases ht

/-- `setup:1` with `bark` and `setup` with `1:bark` join to one id: the second write answers
`Inserted` and stores no target. -/
theorem listed_target_lost : ¬ ∀ (s s' : Ledger Document) (op : Op Document) (out : Outcome)
      (log : List (Op Document × Except LedgerError Outcome)), LedgerRun anyStep migrated log s →
        step s op = (.ok out, s') → out.isInserted = true →
        ∀ p ∈ op.listed, PendingFor s' p.1.value p.2.value := by
  intro hkept
  let key : Token := ⟨"1:bark", by decide, by decide, by decide⟩
  let s₂ := (play step (migrated : Ledger Document) ((twoSetups key).take 2)).2
  let op : Op Document := (twoSetups key).get ⟨2, by decide⟩
  have htrace : (step s₂ op).1 = .ok (.notified .inserted) ∧
      ∃ p ∈ op.listed, ¬ PendingFor (step s₂ op).2 p.1.value p.2.value := by
    decide +kernel
  obtain ⟨hout, p, hp, hlost⟩ := htrace
  exact hlost (hkept s₂ _ op _ _ (Run.play (allowed_anyStep _ _)) (step_answered hout) rfl p hp)

end SpxSpark.Ledger
