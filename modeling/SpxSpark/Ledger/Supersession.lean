import SpxSpark.Ledger.Cancellation

/-!
# Supersession — what a superseding notification ends, and what it misses

An accepted notification cancels the unsent targets it supersedes, once. Afterwards nothing can
publish another superseded target: the gate refuses the roles, and an event offered again already
has its targets.
-/

open SpxSpark.Domain SpxSpark.Lib

namespace SpxSpark.Ledger

open List

variable {D : Type}

/-! ## Events and their targets -/

section

variable [CanonicalHash D] {now : DateTime} {o o' : Outbox D} {row : EventRow D}

/-- Every stored event has its targets, and carries the hash of its payload. -/
structure Complete (o : Outbox D) : Prop where
  keyed : Keyed o
  occupied : ∀ e ∈ o.events, ∀ x ∈ e.payload.targets, HasTarget o e.eventId x
  hashed : ∀ e ∈ o.events, HashedRow e

theorem Complete.migrated : Complete (outbox (Ledger.migrated : Ledger D)) where
  keyed := ⟨fun _ _ h => (by cases h), fun _ _ h => (by cases h)⟩
  occupied := fun e he => by cases he
  hashed := fun e he => by cases he

theorem Complete.moves {P : Label D → Prop} (hc : Complete o) (h : Moves now P o o')
    (hevents : o'.events = o.events) : Complete o' := by
  refine ⟨h.keyed hc.keyed, ?_, ?_⟩
  · intro e he x hx
    rw [hevents] at he
    exact h.targets_mono (hc.occupied e he x hx)
  · intro e he
    rw [hevents] at he
    exact hc.hashed e he

theorem Complete.publishes (hc : Complete o) (hrow : HashedRow row) (h : Publishes now row o o') :
    Complete o' := by
  refine ⟨h.moves.keyed hc.keyed, ?_, ?_⟩
  · intro e he x hx
    rw [h.events] at he
    rcases mem_append.mp he with he | he
    · exact h.moves.targets_mono (hc.occupied e he x hx)
    · rw [mem_singleton] at he
      subst he
      exact h.occupied hc.keyed x hx
  · intro e he
    rw [h.events] at he
    rcases mem_append.mp he with he | he
    · exact hc.hashed e he
    · rw [mem_singleton.mp he]
      exact hrow

theorem Complete.offers (hc : Complete o) (hrow : HashedRow row) (h : Offers now row o o') :
    Complete o' := by
  rcases h with h | h
  · exact hc.publishes hrow h
  · exact hc.moves h.moves h.events

theorem document_inj {p q : EventPayload} (h : p.document = q.document) : p = q := by
  cases p <;> cases q <;> cases h <;> rfl

theorem Complete.idle (hc : Complete o) (hrow : HashedRow row)
    (hdistinct : ∀ e ∈ o.events, e.payloadSha256 = canonicalJsonHash row.payload.document →
      e.payload.document = row.payload.document) (h : Republishes now row o o') : o' = o := by
  obtain ⟨e, he, hid, hsha⟩ := h.stored
  have hpayload : e.payload = row.payload :=
    document_inj (hdistinct e he (hsha.trans hrow))
  refine h.idle fun x hx => ?_
  rw [← hid]
  rw [← hpayload] at hx
  exact hc.occupied e he x hx

end

theorem Op.did_complete [CanonicalHash D] {s s' : Ledger D} {op : Op D} {out : Outcome}
    (h : op.did s out s') (hc : Complete (outbox s)) : Complete (outbox s') := by
  have quiet : (∀ e, ¬ op.permits (.event e)) → Complete (outbox s') := by
    intro hp
    have hm := Op.did_moves 0 h
    exact hc.moves hm (hm.events_eq hp)
  have offers : ∀ {now : DateTime} {d : Option Document}, OffersOther now d s s' →
      Complete (outbox s') := by
    intro now d ho
    rcases ho.outbox with hsame | ⟨row, hrow, -, -, hoff⟩
    · rw [hsame]
      exact hc
    · exact hc.offers hrow hoff
  cases op with
  | persistDecision | persistScheduledReport => exact offers h
  | persistOperatorNotification =>
    obtain ⟨-, w, -, hw⟩ := h
    generalize outbox s' = o' at hw ⊢
    cases hw with
    | inserted _ _ hrow _ hcancels _ hpub =>
      exact (hc.moves hcancels (hcancels.events_eq not_cancels_event)).publishes hrow hpub
    | duplicate hrow _ hrep => exact hc.offers hrow (.inr hrep)
    | suppressed => exact hc
  | _ => exact quiet (by simp [Op.permits, ShiftsBy])

/-! ## What moves a target out of the fence -/

/-- The shifts that bring a target back to pending from a status in which it was sent. -/
def Shift.resends : Shift → Bool
  | .settle .pending | .replay => true
  | _ => false

theorem Shift.resends_settle {c : TargetStatus} (h : (Shift.settle c).resends = true) :
    c = .pending := by
  cases c <;> first | rfl | cases h

theorem Shift.keeps_sent {k : Shift} {a b : TargetStatus} (hp : k.permits a b = true)
    (hk : k.resends = false) (ha : a.unsent = false) : b.unsent = false := by
  cases k <;> simp only [permits, Bool.and_eq_true, beq_iff_eq] at hp
  case settle c =>
    obtain ⟨⟨-, rfl⟩, hc⟩ := hp
    cases b <;> first | rfl | exact absurd hc (by decide) | exact absurd hk (by decide)
  case cancel | expire | reject | giveUp | start =>
    rw [hp.2]
    rfl
  case requeue | claim =>
    rw [hp.1] at ha
    cases ha
  case replay => cases hk
  case acknowledge =>
    rw [hp.2]
    exact ha

/-- A target of an event that `n` supersedes. -/
def SupersededTarget (n : OperatorNotificationV1) (o : Outbox D) (id : String) : Prop :=
  ∃ t e, o.targets id = some t ∧ e ∈ o.events ∧ e.eventId = t.eventId ∧ Superseded n e

section

variable {now : DateTime} {o o' : Outbox D} {n : OperatorNotificationV1}

theorem SupersededSent.moves {P : Label D → Prop} (hsent : SupersededSent n o)
    (h : Moves now P o o') (hevent : ∀ e, ¬ P (.event e)) (htarget : ∀ t, ¬ P (.target t))
    (hk : ∀ id k, P (.shift id k) → k.resends = true → ¬ SupersededTarget n o id) :
    SupersededSent n o' := by
  intro e he hsup id t' ht' hev
  rw [h.events_eq hevent] at he
  obtain ⟨t, ht⟩ := h.target_old htarget ht'
  -- A superseded target is only moved by shifts that keep it sent.
  let R (a b : TargetStatus) : Prop :=
    t.eventId = e.eventId → a.unsent = false → b.unsent = false
  have hshift : ∀ k, P (.shift id k) → ∀ a b, k.permits a b = true → R a b := by
    intro k hpk a b hp hte ha
    cases hr : k.resends with
    | false => exact k.keeps_sent hp hr ha
    | true => exact absurd ⟨t, e, ht, he, hte.symm, hsup⟩ (hk id k hpk hr)
  obtain ⟨t'', ht'', hsame, hst⟩ :=
    Moves.status (R := R) (fun _ _ h => h) (fun h h' hte ha => h' hte (h hte ha)) hshift h ht
  rw [ht'] at ht''
  cases ht''
  have hte : t.eventId = e.eventId := hsame.eventId.symm.trans hev
  exact hst hte (hsent e he hsup id t ht hte)

theorem Publishes.target_old {row : EventRow D} (h : Publishes now row o o') {id : String}
    {t : TargetRow} (ht : o'.targets id = some t) (hne : t.eventId ≠ row.eventId) :
    o.targets id = some t := by
  let I (x : Outbox D) : Prop :=
    ∀ id t, x.targets id = some t → t.eventId ≠ row.eventId → o.targets id = some t
  have hI : I o := fun _ _ h _ => h
  refine h.moves.keeps (I := I) ?_ hI id t ht hne
  rintro l hl a b hm hold id t ht hne
  rcases hm.target_cases id with hsame | ⟨u, rfl, -, -, hu, -⟩ | ⟨k, _, _, _, _, rfl, _⟩
  · exact hold id t (hsame ▸ ht) hne
  · -- The added target is one of the published event.
    rw [hu] at ht
    cases ht
    rcases hl with hl | ⟨v, hv, hev⟩
    · cases hl
    · cases hv
      exact absurd hev hne
  · rcases hl with hl | ⟨v, hv, -⟩
    · cases hl
    · cases hv

theorem SupersededSent.publishes {row : EventRow D} (hsent : SupersededSent n o)
    (h : Publishes now row o o') (hrow : ¬ Superseded n row) : SupersededSent n o' := by
  intro e he hsup id t ht hev
  rw [h.events] at he
  rcases mem_append.mp he with he | he
  · have hne : t.eventId ≠ row.eventId := hev ▸ h.fresh e he
    exact hsent e he hsup id t (h.target_old ht hne) hev
  · rw [mem_singleton.mp he] at hsup
    exact absurd hsup hrow

theorem not_superseded_of_none {row : EventRow D} (h : row.notification? = none) :
    ¬ Superseded n row := by
  simp [Superseded, EventRow.supersededBy, h]

theorem not_superseded_of_persist {s : Ledger D} {m : OperatorNotificationV1} {row : EventRow D}
    (hn : n ∈ notifications (outbox s)) (hm : enforceOperatorLifecycle s m = .persist)
    (hrow : row.notification? = some m) : ¬ Superseded n row := by
  intro hsup
  simp only [Superseded, EventRow.supersededBy, hrow, Option.any_some, Bool.and_eq_true,
    decide_eq_true_eq] at hsup
  obtain ⟨⟨hopp, hgen⟩, hrole⟩ := hsup
  obtain ⟨-, hfollow⟩ := enforceOperatorLifecycle_persist hm
  have hin : n.role ∈ ((opportunityEvents s m.opportunityId).filter
      (·.generation = m.generation)).map (·.role) := by
    refine mem_map_of_mem (mem_filter.mpr ⟨mem_filter.mpr ⟨hn, ?_⟩, ?_⟩)
    · simp [hopp]
    · simp [hgen]
  cases hr : n.role <;> rw [hr] at hin hrole
  case setup => cases hrole
  case tradeReady =>
    have hm : m.role = .setup := by simpa [supersededRoles, supersession] using hrole
    rcases hfollow.ready hin with h | h <;> rw [hm] at h <;> cases h
  case cancel =>
    rw [hfollow.cancelled hin] at hrole
    exact absurd hrole (by decide)
  case exit => exact hfollow.notExited hin

end

theorem not_cancels_resend {ids : List String} {id : String} {k : Shift} (hk : k.resends = true) :
    ¬ Cancels ids (.shift id k : Label D) := by
  rintro ⟨_, -, h⟩
  cases h
  cases hk

theorem Op.permits_resend {op : Op D} {id : String} {k : Shift} (h : op.permits (.shift id k))
    (hk : k.resends = true) : (∃ draws lease handle attemptId settlement now,
        op = .settle draws lease handle attemptId settlement now) ∨
      ∃ draws targetId actor reasonCode now,
        op = .replayFailure draws targetId actor reasonCode now := by
  have hby : ∀ {ks : List Shift}, ShiftsBy ks (.shift id k : Label D) → k ∈ ks := by
    rintro ks ⟨_, k', hk', heq⟩
    cases heq
    exact hk'
  have hno : ∀ {ks : List Shift}, k ∈ ks → (∀ x ∈ ks, x.resends = false) → False := by
    intro ks hin hall
    rw [hall k hin] at hk
    cases hk
  cases op with
  | settle => exact .inl ⟨_, _, _, _, _, _, rfl⟩
  | replayFailure => exact .inr ⟨_, _, _, _, _, rfl⟩
  | persistDecision | persistScheduledReport =>
    rcases h with ⟨e, he⟩ | ⟨t, ht⟩
    · cases he
    · cases ht
  | persistOperatorNotification =>
    rcases h with (⟨e, he⟩ | ⟨t, ht⟩) | h
    · cases he
    · cases ht
    · exact (hno (hby h) (by decide)).elim
  | cancelEventAt =>
    rcases h with ⟨c, hc, -⟩ | h
    · cases hc
    · exact (hno (hby h) (by decide)).elim
  | recoverStaleClaims | claimNext | rejectBeforeTransport =>
    exact (hno (hby h) (by decide)).elim
  | beginTransport =>
    obtain ⟨_, heq, rfl | rfl | ⟨a, rfl⟩⟩ := h <;> cases heq <;> cases hk
  | acknowledgeFailure =>
    cases h
    cases hk
  | _ => exact h.elim

/-! ## The fence -/

/-- Puts a target of a superseded event, already sent, back to pending: a settlement that retries
it, or an operator's replay. -/
def Op.revives (s : Ledger D) : Op D → Prop
  | .settle _ _ handle _ settlement _ =>
    retriesTarget s handle.targetId settlement = true ∧
      ∃ n ∈ notifications (outbox s), SupersededTarget n (outbox s) handle.targetId
  | .replayFailure _ targetId _ _ _ =>
    ∃ n ∈ notifications (outbox s), SupersededTarget n (outbox s) targetId
  | _ => False

/-- The document an operation offers as an event. -/
def Op.document? : Op D → Option Document
  | .persistDecision _ _ intent _ => intent.map .intent
  | .persistScheduledReport _ intent _ => some (.report intent)
  | .persistOperatorNotification _ _ n _ _ => some (.notification n)
  | _ => none

section

variable [CanonicalHash D] {s s' : Ledger D} {n : OperatorNotificationV1}

/-- Offers a document with the digest of another one that is stored. -/
def Op.collides (s : Ledger D) (op : Op D) : Prop :=
  ∃ d, op.document? = some d ∧
    ∃ e ∈ s.events.rows, e.payloadSha256 = canonicalJsonHash d ∧ e.payload.document ≠ d

/-- The steps under which the fence stands. -/
def Calm (s : Ledger D) (op : Op D) : Prop := ¬ op.revives s ∧ ¬ op.collides s

/-- `n` is stored, and what it supersedes has been sent or ended. -/
structure Supersedes (n : OperatorNotificationV1) (s : Ledger D) : Prop where
  stored : n ∈ notifications (outbox s)
  sent : SupersededSent n (outbox s)
  complete : Complete (outbox s)

theorem Supersedes.offers {now : DateTime} {row : EventRow D} {o' : Outbox D} {op : Op D}
    (hs : Supersedes n s) (hrow : HashedRow row) (hcol : ¬ op.collides s)
    (hdoc : op.document? = some row.payload.document) (hnot : ¬ Superseded n row)
    (h : Offers now row (outbox s) o') :
    SupersededSent n o' := by
  rcases h with h | h
  · exact hs.sent.publishes h hnot
  · have hdistinct : ∀ e ∈ (outbox s).events,
        e.payloadSha256 = canonicalJsonHash row.payload.document →
        e.payload.document = row.payload.document := by
      intro e he hsha
      by_contra hne
      exact hcol ⟨_, hdoc, e, he, hsha, hne⟩
    rw [hs.complete.idle hrow hdistinct h]
    exact hs.sent

omit [CanonicalHash D] in
theorem payload_of_notification {row : EventRow D} (h : row.notification? = some n) :
    row.payload = .notification n := by
  unfold EventRow.notification? at h
  split at h
  · rename_i hp
    rw [hp, Option.some.inj h]
  · cases h

/-- **The step lemma.** A calm operation keeps the fence. -/
theorem Op.did_supersedes {op : Op D} {out : Outcome} (h : op.did s out s') (hcalm : Calm s op)
    (hs : Supersedes n s) : Supersedes n s' := by
  obtain ⟨hrev, hcol⟩ := hcalm
  refine ⟨?_, ?_, Op.did_complete h hs.complete⟩
  · rw [(Op.did_notifications h).1]
    exact mem_append_left _ hs.stored
  · -- What moves targets without resending any keeps them sent.
    have quiet : (∀ e, ¬ op.permits (.event e)) → (∀ t, ¬ op.permits (.target t)) →
        (∀ id k, op.permits (.shift id k) → k.resends = true →
          ¬ SupersededTarget n (outbox s) id) →
        SupersededSent n (outbox s') :=
      hs.sent.moves (Op.did_moves 0 h)
    cases op with
    | persistDecision _ _ intent | persistScheduledReport _ intent =>
      rcases h.outbox with hsame | ⟨row, hrow, hnone, hdoc, hoff⟩
      · rw [hsame]
        exact hs.sent
      · exact hs.offers hrow hcol hdoc (not_superseded_of_none hnone) hoff
    | persistOperatorNotification draws lease m maxAttempts now =>
      obtain ⟨-, w, -, hw⟩ := h
      generalize outbox s' = o' at hw ⊢
      cases hw with
      | inserted hpersist hrow _ _ hcancels _ hpub =>
        have hmid := hs.sent.moves hcancels not_cancels_event not_cancels_target
          fun _ _ hl hr => absurd hl (not_cancels_resend hr)
        exact hmid.publishes hpub (not_superseded_of_persist hs.stored hpersist hrow)
      | duplicate hrow hnote hrep =>
        -- The stored event is this notification again, with all its targets.
        have hdoc : some (Document.notification m) = some _ :=
          congrArg (fun p => some (EventPayload.document p)) (payload_of_notification hnote).symm
        have hdistinct : ∀ e ∈ (outbox s).events, _ → _ := fun e he hsha => by
          by_contra hne
          exact hcol ⟨_, hdoc, e, he, hsha, hne⟩
        rw [hs.complete.idle hrow hdistinct hrep]
        exact hs.sent
      | suppressed => exact hs.sent
    | settle draws lease handle attemptId settlement now =>
      obtain ⟨-, status, w, -, hretry, hm⟩ := h
      refine hs.sent.moves (.single hm rfl : Moves now (· = .shift handle.targetId _) _ _)
        (fun e he => by cases he) (fun t ht => by cases ht) fun id k hl hr hsup => ?_
      cases hl
      -- Only a retry resends, and a calm step does not retry a superseded target.
      exact hrev ⟨hretry (Shift.resends_settle hr), n, hs.stored, hsup⟩
    | replayFailure draws targetId actor reasonCode now =>
      refine hs.sent.moves h.moves (fun e he => by cases he) (fun t ht => by cases ht)
        fun id k hl _ hsup => ?_
      cases hl
      exact hrev ⟨n, hs.stored, hsup⟩
    | _ =>
      refine quiet (by simp [Op.permits, ShiftsBy]) (by simp [Op.permits, ShiftsBy]) ?_
      intro id k hp hr
      rcases Op.permits_resend hp hr with ⟨_, _, _, _, _, _, hop⟩ | ⟨_, _, _, _, _, hop⟩ <;>
        cases hop

theorem supersedes_of_inserted {now : DateTime} (h : Notifies now n s .inserted (outbox s'))
    (hstored : n ∈ notifications (outbox s')) (hcomplete : Complete (outbox s')) :
    Supersedes n s' := by
  refine ⟨hstored, ?_, hcomplete⟩
  generalize outbox s' = o' at h
  cases h with
  | inserted _ hrow _ _ _ hsent hpub =>
    refine hsent.publishes hpub fun hself => ?_
    -- No role supersedes itself.
    simp only [Superseded, EventRow.supersededBy, hrow, Option.any_some, Bool.and_eq_true] at hself
    cases hr : n.role <;> simp [hr, supersededRoles, supersession] at hself

end

/-! ## Runs -/

section

variable [DecidableEq D] [CanonicalHash D]

theorem LedgerRun.complete {ok : Ledger D → Op D → Prop} {s : Ledger D}
    {log : List (Op D × Except LedgerError Outcome)} (h : LedgerRun ok migrated log s) :
    Complete (outbox s) := by
  refine h.invariant (I := fun s => Complete (outbox s)) .migrated ?_
  intro s op hc _
  rcases step_cases s op with hsame | ⟨out, hdid⟩
  · rw [hsame]
    exact hc
  · exact Op.did_complete hdid hc

end

/-- The supersession fence, over the runs in which every step after the acceptance meets `ok`: once
a notification was accepted, no transport starts for a target of an event it supersedes. -/
def SupersessionFence (D : Type) [DecidableEq D] [CanonicalHash D]
    (ok : Ledger D → Op D → Prop) : Prop :=
  ∀ (start : DateTime) (before during : List (Op D × Except LedgerError Outcome))
    (t₀ t₁ t₂ t₃ : Timed D) (draws draws' : Draws) (lease lease' : OwnerLease)
    (n : OperatorNotificationV1) (maxAttempts : Nat) (now now' : DateTime)
    (claimed : ClaimedDelivery) (duration : TimeDelta) (attemptId : String),
    TimedRun anyStep ⟨migrated, start⟩ before t₀ →
    Forward t₀ (.persistOperatorNotification draws lease n maxAttempts now) →
    timedStep t₀ (.persistOperatorNotification draws lease n maxAttempts now) =
      (.ok (.notified .inserted), t₁) →
    TimedRun ok t₁ during t₂ →
    Forward t₂ (.beginTransport draws' lease' claimed now' duration) →
    timedStep t₂ (.beginTransport draws' lease' claimed now' duration) =
      (.ok (.began (.started attemptId)), t₃) →
    ∀ t e, targetById t₂.ledger claimed.handle.targetId = some t →
      e ∈ t₂.ledger.events.rows → e.eventId = t.eventId → ¬ Superseded n e

/-- **The supersession fence**, where no step settles a superseded target in flight as retryable
with attempts left, none replays a superseded target, and no digests collide. -/
theorem supersession_fence [DecidableEq D] [CanonicalHash D] : SupersessionFence D Calm := by
  intro start before during t₀ t₁ t₂ t₃ draws draws' lease lease' n maxAttempts now now' claimed
    duration attemptId hbefore _ haccept hduring _ hbegin t e ht he hev hsup
  have haccept' := timedStep_untimed haccept
  have hbegin' := timedStep_untimed hbegin
  -- The acceptance raises the fence, and every calm step keeps it.
  have hdid := step_did haccept'
  have hstored : n ∈ notifications (outbox t₁.ledger) := by
    rw [(Op.did_notifications hdid).1]
    exact mem_append_right _ (by simp [accepted])
  have hcomplete := Op.did_complete hdid hbefore.untimed.complete
  obtain ⟨-, w, hw, hnotifies⟩ := hdid
  cases hw
  have hfence₁ : Supersedes n t₁.ledger := supersedes_of_inserted hnotifies hstored hcomplete
  have hfence₂ : Supersedes n t₂.ledger := by
    refine hduring.untimed.invariant (I := Supersedes n) hfence₁ ?_
    intro s op hs hcalm
    rcases step_cases s op with hsame | ⟨out, hdid⟩
    · rw [hsame]
      exact hs
    · exact Op.did_supersedes hdid hcalm hs
  -- A transport starts from a claimed target, and the fence leaves no superseded one claimed.
  obtain ⟨-, b, hb, hbegins⟩ := step_did hbegin'
  cases hb
  obtain ⟨t', ht', hst, -⟩ := hbegins.started_shift
  obtain rfl : t = t' := Option.some.inj (ht.symm.trans ht')
  have hsent := hfence₂.sent e he hsup _ t ht hev.symm
  rw [hst] at hsent
  cases hsent

/-! ## The exit that is sent, and the retry that crosses the fence -/

/-- While the set-up notification's target is in flight the exit is accepted. -/
def acceptExit : Op Document :=
  .persistOperatorNotification (drawsOf exitEvent) coreLease (deskNote .exit exitEvent) 3 4000000000

def claimExit : Op Document :=
  .claimNext (drawsOf exitEvent) deliveryLease 5000000000 10000000000

/-- The claim on the exit's own target. -/
def exitClaim : ClaimedDelivery :=
  { setupClaim 1 exitEvent with
    handle :=
      { targetId := "event-exit:bark", claimToken := "event-exit", leaseSequence := 1
        ownerGeneration := 1 }
    intent := .traderEvent (deskNote .exit exitEvent)
    idempotencyKey := "event-exit:event-exit:bark" }

def sendExit : Op Document :=
  .beginTransport (drawsOf exitEvent) deliveryLease exitClaim 5000000000 10000000000

theorem supersession_fence_exitSent :
    let t₀ := (play timedStep (⟨migrated, 0⟩ : Timed Document) inTransport).2
    let t₁ := (timedStep t₀ acceptExit).2
    let t₂ := (play timedStep t₁ [claimExit]).2
    (timedStep t₂ sendExit).1 = .ok (.began (.started "event-exit")) ∧
      ∀ t e, targetById t₂.ledger "event-exit:bark" = some t → e ∈ t₂.ledger.events.rows →
        e.eventId = t.eventId → ¬ Superseded (deskNote .exit exitEvent) e := by
  intro t₀ t₁ t₂
  have htrace : Allowed timedStep (fun t op => Forward t op ∧ anyStep t.ledger op)
        ⟨migrated, 0⟩ inTransport ∧
      Forward t₀ acceptExit ∧ (timedStep t₀ acceptExit).1 = .ok (.notified .inserted) ∧
      Forward t₁ claimExit ∧ Forward t₂ sendExit ∧
      (timedStep t₂ sendExit).1 = .ok (.began (.started "event-exit")) := by
    decide +kernel
  obtain ⟨hbefore, hnow, haccept, hclaim, hnow', hbegin⟩ := htrace
  -- A claim revives nothing and offers nothing.
  have hcalm : Calm t₁.ledger claimExit := ⟨id, fun ⟨_, hd, _⟩ => nomatch hd⟩
  refine ⟨hbegin, ?_⟩
  exact supersession_fence 0 _ _ t₀ t₁ t₂ (timedStep t₂ sendExit).2 (drawsOf exitEvent)
    (drawsOf exitEvent) coreLease deliveryLease (deskNote .exit exitEvent) 3 4000000000 5000000000
    exitClaim 10000000000 "event-exit" (Run.play hbefore) hnow (step_answered haccept)
    (Run.play ⟨⟨hclaim, hcalm⟩, trivial⟩) hnow' (step_answered hbegin)

/-- The transport then fails retryably, and both targets are claimed. -/
def retrySetup : List (Op Document) :=
  [.settle (drawsOf exitEvent) deliveryLease (setupClaim 1 setupEvent).handle "event-setup"
      (.retryable "timeout" 6000000000) 5000000000,
    .claimNext (drawsOf exitEvent) deliveryLease 7000000000 10000000000,
    .claimNext (drawsOf readyEvent) deliveryLease 7000000000 10000000000]

def restartSetup : Op Document :=
  .beginTransport (drawsOf readyEvent) deliveryLease (setupClaim 2 readyEvent) 7000000000
    10000000000

/-- Without the condition the fence falls: the sweep leaves an in-flight target alone, and a
retryable settlement puts it back to pending. -/
theorem supersession_fence_falls : ¬ SupersessionFence Document anyStep := by
  intro hfence
  let allowed (t : Timed Document) (op : Op Document) : Prop := Forward t op ∧ anyStep t.ledger op
  let t₀ := (play timedStep (⟨migrated, 0⟩ : Timed Document) inTransport).2
  let t₁ := (timedStep t₀ acceptExit).2
  let t₂ := (play timedStep t₁ retrySetup).2
  -- The started target belongs to the set-up event, which the exit supersedes.
  have htrace : Allowed timedStep allowed ⟨migrated, 0⟩ inTransport ∧ Forward t₀ acceptExit ∧
      (timedStep t₀ acceptExit).1 = .ok (.notified .inserted) ∧
      Allowed timedStep allowed t₁ retrySetup ∧ Forward t₂ restartSetup ∧
      (timedStep t₂ restartSetup).1 = .ok (.began (.started "event-ready")) ∧
      ((targetById t₂.ledger "event-setup:bark").any fun t =>
        t₂.ledger.events.rows.any fun e => e.eventId = t.eventId &&
          e.supersededBy (deskNote .exit exitEvent) (supersededRoles .exit)) = true := by
    decide +kernel
  obtain ⟨hbefore, hnow, haccept, hduring, hnow', hbegin, hsuperseded⟩ := htrace
  obtain ⟨t, ht, hany⟩ := Option.any_eq_true _ _ |>.mp hsuperseded
  obtain ⟨e, he, hp⟩ := any_eq_true.mp hany
  simp only [Bool.and_eq_true, decide_eq_true_eq] at hp
  exact hfence 0 _ _ t₀ t₁ t₂ (timedStep t₂ restartSetup).2 (drawsOf exitEvent) (drawsOf readyEvent)
    coreLease deliveryLease (deskNote .exit exitEvent) 3 4000000000 7000000000
    (setupClaim 2 readyEvent) 10000000000 "event-ready" (Run.play hbefore) hnow
    (step_answered haccept) (Run.play hduring) hnow' (step_answered hbegin) t e ht he hp.1 hp.2

end SpxSpark.Ledger
