import SpxSpark.Ledger.Publish

/-!
# Notifications — operator notifications and cancellation fences in the outbox

An accepted notification first ends every unsent target it supersedes and is then published; an
exact repeat is offered again, and a suppressed one changes nothing.
-/

open SpxSpark.Domain SpxSpark.Lib

namespace SpxSpark.Ledger

open Txn

variable {D : Type} {s s' : Ledger D} {G : Prop} {now : DateTime}

/-- A holder of a role reads a clock after the epoch, if owners were acquired before now. -/
def OwnersBefore (s : Ledger D) (now : DateTime) : Prop :=
  ∀ role r, s.runtimeOwners role = some r → r.val.acquiredAtUs ≤ micros now

variable {lease : OwnerLease}

theorem holdsRole_row (h : holdsRole s lease now = true) :
    ∃ r, s.runtimeOwners lease.role = some r ∧ r.val.ownerId = lease.ownerId ∧
      r.val.generation = lease.generation ∧ r.val.active = true ∧
      micros now < r.val.leaseUntilUs := by
  obtain ⟨r, hr, hp⟩ := Option.any_eq_true _ _ |>.mp h
  simp only [Bool.and_eq_true, beq_iff_eq, decide_eq_true_eq] at hp
  exact ⟨r, hr, hp.1.1.1, hp.1.1.2, hp.1.2, hp.2⟩

theorem holdsRole_generation (h : holdsRole s lease now = true) : 0 < lease.generation := by
  obtain ⟨r, -, -, hg, -, -⟩ := holdsRole_row h
  have hc := r.property
  simp only [OwnerRow.check, Bool.and_eq_true, decide_eq_true_eq] at hc
  omega

theorem holdsRole_now (h : holdsRole s lease now = true) (hb : OwnersBefore s now) :
    0 < micros now := by
  obtain ⟨r, hr, -⟩ := holdsRole_row h
  have hc := r.property
  simp only [OwnerRow.check, Bool.and_eq_true, decide_eq_true_eq] at hc
  have := hb _ r hr
  omega

theorem Moves.target_old {P : Label D → Prop} {o o' : Outbox D} (h : Moves now P o o')
    (hP : ∀ t, ¬ P (.target t)) {id : String} {t' : TargetRow} (ht' : o'.targets id = some t') :
    ∃ t, o.targets id = some t := by
  by_contra hno
  have hnone : o.targets id = none := by
    cases ht : o.targets id with
    | none => rfl
    | some t => exact absurd ⟨t, ht⟩ hno
  have : o'.targets id = none := by
    refine h.keeps (I := fun o => o.targets id = none) ?_ hnone
    intro l hl a b hm ha
    rcases hm.target_cases id with he | ⟨t, rfl, -⟩ | ⟨_, _, _, _, _, _, ht, -⟩
    · exact he.trans ha
    · exact absurd hl (hP t)
    · rw [ha] at ht
      cases ht
  rw [ht'] at this
  cases this

/-! ## Supersession -/

/-- The roles that an event of `role` supersedes. -/
def supersededRoles (role : OperatorNotificationRole) : List OperatorNotificationRole :=
  match supersession role with
  | none => []
  | some (roles, _) => roles

/-- A stored event that `n` supersedes. -/
def Superseded (n : OperatorNotificationV1) (e : EventRow D) : Prop :=
  e.supersededBy n (supersededRoles n.role) = true

/-- Every target of an event that `n` supersedes has left pending and claimed. -/
def SupersededSent (n : OperatorNotificationV1) (o : Outbox D) : Prop :=
  ∀ e ∈ o.events, Superseded n e → ∀ id t, o.targets id = some t → t.eventId = e.eventId →
    t.status.unsent = false

theorem not_cancels_target {ids : List String} (t : TargetRow) :
    ¬ Cancels ids (.target t : Label D) := by
  rintro ⟨_, _, h⟩
  cases h

theorem not_cancels_event {ids : List String} (e : EventRow D) : ¬ Cancels ids (.event e) := by
  rintro ⟨_, _, h⟩
  cases h

variable {draws : Draws}

theorem wp_supersede {Q : Unit → Ledger D → Prop} {n : OperatorNotificationV1}
    (hok : ∀ s' ids, Advance now (Cancels ids) s s' → SupersededSent n (outbox s') → Q () s') :
    wp (supersedePriorOperatorTargets draws n now) Q (fun _ => True) s := by
  unfold supersedePriorOperatorTargets
  cases hsup : supersession n.role with
  | none =>
    refine hok s [] (.refl s) ?_
    intro e _ he
    simp only [Superseded, supersededRoles, hsup, EventRow.supersededBy, List.contains_nil,
      Bool.and_false] at he
    cases hn : e.notification? <;> simp [hn] at he
  | some p =>
    obtain ⟨roles, reason⟩ := p
    simp only [wp_bind, wp_get]
    let rows := supersededTargets s n roles
    have hrows : ∀ r, r ∈ rows ↔ r ∈ s.targets.rows ∧ r.status.unsent = true ∧
        ∃ e ∈ s.events.rows, e.eventId = r.eventId ∧ e.supersededBy n roles = true := by
      intro r
      simp [rows, supersededTargets]
    refine wp_mono (fun _ _ h => h) (fun _ _ => trivial)
      (wp_cancelAll (G := False) (fun r hr => ((hrows r).mp hr).2.1) False.elim ?_)
    intro s' hadv hnone
    refine hok s' _ hadv ?_
    intro e he hsupe id t ht hev
    have hevents : (outbox s').events = (outbox s).events :=
      hadv.moves.events_eq not_cancels_event
    rw [hevents] at he
    obtain ⟨t₀, ht₀⟩ := hadv.moves.target_old not_cancels_target ht
    obtain ⟨t', ht', hsame, hstatus⟩ := hadv.moves.cancelled ht₀
    rw [ht] at ht'
    cases ht'
    rcases hstatus with hstatus | hstatus
    · cases hun : t.status.unsent with
      | false => rfl
      | true =>
        obtain ⟨hmem, hid⟩ := outbox_targets.mp ht₀
        have hin : t₀ ∈ rows := by
          refine (hrows t₀).mpr ⟨hmem, hstatus ▸ hun, e, he, ?_, ?_⟩
          · rw [← hsame.eventId, hev]
          · simpa [Superseded, supersededRoles, hsup] using hsupe
        have := hnone id (List.mem_map.mpr ⟨t₀, hin, hid⟩) t ht
        rw [hun] at this
        exact this
    · rw [hstatus]
      rfl

section

variable [DecidableEq D] [CanonicalHash D]

/-- What `persist_operator_notification` does to the outbox, by its answer. -/
inductive Notifies (now : DateTime) (n : OperatorNotificationV1) (s : Ledger D) :
    OperatorNotificationWrite → Outbox D → Prop
  | inserted {ids : List String} {row : EventRow D} {mid o' : Outbox D} :
      enforceOperatorLifecycle s n = .persist → row.notification? = some n → HashedRow row →
      row.eventId = n.eventId.value → Moves now (Cancels ids) (outbox s) mid →
      SupersededSent n mid → Publishes now row mid o' → Notifies now n s .inserted o'
  | duplicate {row : EventRow D} {o' : Outbox D} :
      HashedRow row → row.notification? = some n → Republishes now row (outbox s) o' →
      Notifies now n s .duplicate o'
  | suppressed : Notifies now n s .semanticSuppressed (outbox s)

theorem persistOperatorNotification_spec {n : OperatorNotificationV1} {maxAttempts : Nat} :
    wp (persistOperatorNotification draws lease n maxAttempts now)
      (fun w s' => s'.runtimeOwners = s.runtimeOwners ∧ Notifies now n s w (outbox s'))
      (fun _ => True) s := by
  simp only [persistOperatorNotification, wp_bind, wp_liftDomain, wp_ensure,
    wp_requireOwner, wp_get]
  refine ⟨fun _ _ => ⟨fun hm => ⟨fun _ _ => ?_, fun _ => trivial, fun _ _ => trivial⟩,
    fun _ => trivial⟩, fun _ _ => trivial⟩
  let row : EventRow D := notificationEventRow lease n now
  split
  · simp only [wp_ite, wp_bind, wp_fencedByCancellation, wp_insertInto, wp_pure]
    refine ⟨fun _ => ⟨trivial, .suppressed⟩, fun hlife => ?_⟩
    have hpersist : enforceOperatorLifecycle s n = .persist := by
      cases hl : enforceOperatorLifecycle s n with
      | persist => rfl
      | suppress => exact absurd hl hlife
    refine wp_supersede fun mid ids hadv hsent => ?_
    refine ⟨fun hf => ⟨fun t hins => ?_, fun _ _ => trivial⟩, fun _ => trivial⟩
    refine publish_targets now row hm.1 rfl hf hins fun s' hp ho => ?_
    have hrow : HashedRow row := rfl
    exact ⟨ho.trans hadv.owners, .inserted hpersist rfl hrow rfl hadv.moves hsent hp⟩
  · rename_i stored hmatch
    simp only [wp_bind, wp_ensure, wp_pure]
    refine ⟨fun hexact => ?_, fun _ => trivial⟩
    have hrow : HashedRow row := rfl
    exact republish_found now row hm.1 hmatch hexact
      fun s' hp ho => ⟨ho, .duplicate hrow rfl hp⟩
  · trivial

end

/-! ## Cancellation fences -/

/-- What a cancellation of `eventId` does to the outbox. -/
structure CancelsEvent (now : DateTime) (eventId : String) (o o' : Outbox D) : Prop where
  moves : Moves now (fun l => (∃ c, l = .fence c ∧ c.eventId = eventId) ∨ ∃ ids, Cancels ids l) o o'
  fenced : ∃ c ∈ o'.fences, c.eventId = eventId
  noneUnsent : ∀ id t, o'.targets id = some t → t.eventId = eventId → t.status.unsent = false
  cancelled : ∀ id t, o.targets id = some t → t.eventId = eventId → t.status.unsent = true →
    ∃ t', o'.targets id = some t' ∧ SameTarget t t' ∧ t'.status = .cancelled

theorem fence_move (now : DateTime) {c : CancellationRow} {t : Table cancellationSchema}
    (hi : s.cancellations.insert c = .ok t) :
    Move now (.fence c) (outbox s) (outbox { s with cancellations := t }) := by
  obtain ⟨hrows, -, hfree⟩ := Table.insert_ok hi
  have hout : outbox { s with cancellations := t } =
      { outbox s with fences := (outbox s).fences ++ [c] } := by
    simp only [outbox, hrows]
    rfl
  rw [hout]
  refine .fence ?_
  intro x hx
  have := hfree x hx
  simpa [cancellationSchema] using this

theorem wp_cancelTargets {Q : Unit → Ledger D → Prop} {eventId reasonCode transition : String}
    {o : Outbox D} (hnow : G → 0 < micros now)
    (hfence : Moves now (fun l => ∃ c : CancellationRow, l = .fence c ∧ c.eventId = eventId) o
      (outbox s))
    (hmem : ∃ c ∈ (outbox s).fences, c.eventId = eventId)
    (hok : ∀ s', CancelsEvent now eventId o (outbox s') → s'.runtimeOwners = s.runtimeOwners →
      Q () s') :
    wp ((unsentTargets s eventId).forM fun t =>
      cancelUnsent (draws.receiptId t.targetId) reasonCode transition now t) Q (Quiet G) s := by
  have hrows : ∀ r, r ∈ unsentTargets s eventId ↔
      r ∈ s.targets.rows ∧ r.eventId = eventId ∧ r.status.unsent = true := by
    intro r
    simp [unsentTargets]
  have htargets : (outbox s).targets = o.targets := by
    let R (a b : Outbox D) : Prop := b.targets = a.targets
    refine hfence.relates (R := R) (fun _ => rfl) (fun {_ _ _} hab hbc => Eq.trans hbc hab) ?_
    rintro l ⟨c, rfl, -⟩ a b hm
    cases hm
    rfl
  refine wp_cancelAll (fun r hr => ((hrows r).mp hr).2.2) hnow ?_
  intro s' hadv hnone
  have hgone : ∀ id t, (outbox s').targets id = some t → t.eventId = eventId →
      t.status.unsent = false := by
    intro id t ht hev
    obtain ⟨t₀, ht₀⟩ := hadv.moves.target_old not_cancels_target ht
    obtain ⟨t', ht', hsame, hstatus⟩ := hadv.moves.cancelled ht₀
    rw [ht] at ht'
    cases ht'
    cases hun : t.status.unsent with
    | false => rfl
    | true =>
      obtain ⟨hm, hid⟩ := outbox_targets.mp ht₀
      have hun₀ : t₀.status.unsent = true := by
        rcases hstatus with h | h
        · exact h ▸ hun
        · rw [h] at hun
          cases hun
      have hin : t₀ ∈ unsentTargets s eventId := by
        refine (hrows t₀).mpr ⟨hm, ?_, hun₀⟩
        rw [← hsame.eventId, hev]
      have := hnone id (List.mem_map.mpr ⟨t₀, hin, hid⟩) t ht
      rw [hun] at this
      exact this
  refine hok s' ⟨?_, ?_, hgone, ?_⟩ hadv.owners
  · exact (hfence.mono fun l hl => .inl hl).trans (hadv.moves.mono fun l hl => .inr ⟨_, hl⟩)
  · obtain ⟨c, hc, hev⟩ := hmem
    exact ⟨c, hadv.moves.fences_sub c hc, hev⟩
  · intro id t ht hev hun
    rw [← htargets] at ht
    obtain ⟨t', ht', hsame, hstatus | hstatus⟩ := hadv.moves.cancelled ht
    · have := hgone id t' ht' (hsame.eventId.trans hev)
      rw [hstatus, hun] at this
      cases this
    · exact ⟨t', ht', hsame, hstatus⟩

/-- The inputs under which a cancellation meets its CHECKs. -/
def CancellationInput (eventId reasonCode : String) (cancelledAt : DateTime) : Prop :=
  sqlNonBlank eventId = true ∧ sqlNonBlank reasonCode = true ∧ 0 < micros cancelledAt

theorem cancelEventAt_spec {eventId reasonCode : String} {cancelledAt : DateTime} :
    wp (cancelEventAt draws lease eventId reasonCode cancelledAt now)
      (fun _ s' => s'.runtimeOwners = s.runtimeOwners ∧
        CancelsEvent now eventId (outbox s) (outbox s'))
      (Quiet (OwnersBefore s now ∧ CancellationInput eventId reasonCode cancelledAt)) s := by
  simp only [cancelEventAt, wp_bind, wp_ensure, wp_requireOwner, wp_insertOrIgnoreInto, wp_ite,
    wp_pure, wp_get]
  refine ⟨fun _ => ⟨fun _ => ⟨fun _ hlease => ?_, ?_, ?_⟩, ?_⟩, ?_⟩
  · have hnow : (OwnersBefore s now ∧ CancellationInput eventId reasonCode cancelledAt) →
        0 < micros now := fun hG => holdsRole_now hlease hG.1
    refine ⟨fun hins => ?_, fun hins => ?_⟩
    · have hmove := fence_move now (Table.insertOrIgnore_true hins)
      refine wp_cancelTargets (o := outbox s) hnow (.single hmove ⟨_, rfl, rfl⟩) ?_
        fun s' hc ho => ⟨ho, hc⟩
      have hrows := (Table.insert_ok (Table.insertOrIgnore_true hins)).1
      refine ⟨⟨eventId, reasonCode, micros cancelledAt, lease.generation⟩, ?_, rfl⟩
      change _ ∈ (s.cancellations.insertOrIgnore _).2.rows
      rw [hrows]
      simp
    · obtain ⟨hsame, hwhy⟩ := Table.insertOrIgnore_false (by simpa using hins)
      simp only [hsame, verifyFence, wp_bind, wp_get, wp_queryRow, wp_ensure]
      refine ⟨fun existing hex => ⟨fun _ => ?_, ?_⟩, ?_⟩
      · refine wp_cancelTargets (o := outbox s) hnow (.refl _) ?_ fun s' hc ho => ⟨ho, hc⟩
        refine ⟨existing, List.mem_of_find?_eq_some hex, ?_⟩
        simpa using List.find?_some hex
      · intro _ _ hbad
        simp [FailsOnCheck] at hbad
      · intro hnone hG _
        rcases hwhy with hbad | ⟨r, hr, hclash⟩
        · simp [cancellationSchema, hG.2.1, hG.2.2.1, hG.2.2.2, holdsRole_generation hlease] at hbad
        · have := List.find?_eq_none.mp hnone r hr
          simp only [cancellationSchema, beq_iff_eq] at hclash
          simp [hclash] at this
  all_goals
    intro _
    intros
    simp [Quiet, NotCheck, FailsOnCheck]

end SpxSpark.Ledger
