import SpxSpark.Ledger.Lifecycle

/-!
# Cancellation — the cancellation fence

A fence row is never removed. An event can only be inserted, and a transport only started, where no
fence stands for the event, so a cancellation shuts both for good; whatever the rows of the event go
through afterwards, none of it is another transport.
-/

open SpxSpark.Domain SpxSpark.Lib

namespace SpxSpark.Ledger

variable {D : Type}

/-- A cancellation of the event has committed. -/
def Fenced (o : Outbox D) (eventId : String) : Prop := ∃ c ∈ o.fences, c.eventId = eventId

section

variable {now : DateTime} {P : Label D → Prop} {o o' : Outbox D} {eventId : String}

theorem Moves.fenced (h : Moves now P o o') (hf : Fenced o eventId) : Fenced o' eventId := by
  obtain ⟨c, hc, hev⟩ := hf
  exact ⟨c, h.fences_sub c hc, hev⟩

theorem Moves.no_fenced_event (h : Moves now P o o') (hf : Fenced o eventId) :
    ∀ e ∈ o'.events, e.eventId = eventId → e ∈ o.events := by
  let I (x : Outbox D) : Prop :=
    Fenced x eventId ∧ ∀ e ∈ x.events, e.eventId = eventId → e ∈ o.events
  have hI : I o := ⟨hf, fun e he _ => he⟩
  refine (h.keeps (I := I) ?_ hI).2
  rintro l - a b hm ⟨⟨c, hc, hev⟩, hold⟩
  have hfenced : Fenced b eventId := ⟨c, hm.fences_sub c hc, hev⟩
  refine ⟨hfenced, ?_⟩
  cases hm with
  | event hfree _ =>
    intro x hx hxe
    rcases List.mem_append.mp hx with hx | hx
    · exact hold x hx hxe
    · -- The inserted event is not the fenced one.
      rw [List.mem_singleton] at hx
      subst hx
      exact absurd (hev.trans hxe.symm) (hfree c hc)
  | target => exact hold
  | fence => exact hold
  | shift => exact hold

theorem Begins.started_shift {targetId a : String} (h : Begins now targetId o (.started a) o') :
    ∃ t, o.targets targetId = some t ∧ t.status = .claimed ∧ ¬ Fenced o t.eventId := by
  cases h with
  | started hm =>
    cases hm with
    | @shift _ _ _ t _ _ _ ht hs =>
      cases hs with
      | start hst _ hfree =>
        refine ⟨t, ht, hst, ?_⟩
        rintro ⟨c, hc, hev⟩
        exact hfree c hc hev

end

section

variable [DecidableEq D] [CanonicalHash D] {s s₁ s₂ : Ledger D}

theorem step_moves (s : Ledger D) (op : Op D) :
    ∃ now, Moves now (fun _ => True) (outbox s) (outbox (step s op).2) := by
  rcases step_cases s op with h | ⟨out, h⟩
  · rw [h]
    exact ⟨0, .refl _⟩
  · exact ⟨_, (Op.did_moves 0 h).mono fun _ _ => trivial⟩

/-- **The cancellation fence.** Once a cancellation of an event has committed, in every run after
it: its pending and claimed targets are cancelled, no event is inserted under its id, and no
transport starts for a target it has. -/
theorem cancellation_fence {draws : Draws} {lease : OwnerLease} {eventId reasonCode : String}
    {cancelledAt processingAt : DateTime} {out : Outcome}
    {log : List (Op D × Except LedgerError Outcome)}
    (hcancel : step s (.cancelEventAt draws lease eventId reasonCode cancelledAt processingAt) =
      (.ok out, s₁))
    (hrun : LedgerRun anyStep s₁ log s₂) :
    (∀ id t, targetById s id = some t → t.eventId = eventId → t.status.unsent = true →
        ∃ t', targetById s₁ id = some t' ∧ t'.status = .cancelled) ∧
      (∀ id t, targetById s₁ id = some t → t.eventId = eventId → t.status.unsent = false) ∧
      (∀ op, ∀ e ∈ (step s₂ op).2.events.rows, e.eventId = eventId → e ∈ s₂.events.rows) ∧
      ∀ draws' lease' claimed now duration attemptId s₃,
        step s₂ (.beginTransport draws' lease' claimed now duration) =
          (.ok (.began (.started attemptId)), s₃) →
        ∀ t, targetById s₂ claimed.handle.targetId = some t → t.eventId ≠ eventId := by
  have hdid : CancelsEvent processingAt eventId (outbox s) (outbox s₁) := (step_did hcancel).2
  have hfenced : Fenced (outbox s₂) eventId := by
    refine hrun.invariant (I := fun s => Fenced (outbox s) eventId) hdid.fenced ?_
    intro s op hf _
    obtain ⟨now, hm⟩ := step_moves s op
    exact hm.fenced hf
  refine ⟨?_, hdid.noneUnsent, ?_, ?_⟩
  · intro id t ht hev hun
    obtain ⟨t', ht', -, hst⟩ := hdid.cancelled id t ht hev hun
    exact ⟨t', ht', hst⟩
  · intro op
    obtain ⟨now, hm⟩ := step_moves s₂ op
    exact hm.no_fenced_event hfenced
  · intro draws' lease' claimed now duration attemptId s₃ hbegin t ht hev
    obtain ⟨-, b, hb, hbegins⟩ := step_did hbegin
    cases hb
    obtain ⟨t', ht', -, hfree⟩ := hbegins.started_shift
    obtain rfl : t = t' := Option.some.inj (ht.symm.trans ht')
    exact hfree (hev ▸ hfenced)

end

/-! ## A cancellation that meets a target in flight -/

def deliveryLease : OwnerLease :=
  { role := .delivery, ownerId := "delivery-process-1", generation := 1
    leaseUntil := 100000000000 }

/-- The claim on the set-up notification's target, by its sequence number and claim token. -/
def setupClaim (leaseSequence : Int) (claimToken : Uuid) : ClaimedDelivery where
  handle :=
    { targetId := "event-setup:bark", claimToken := claimToken.value, leaseSequence
      ownerGeneration := 1 }
  intent := .traderEvent (deskNote .setup setupEvent)
  targetKey := barkKey
  channel := .bark
  attemptNo := leaseSequence
  idempotencyKey := "event-setup:event-setup:bark"

/-- The set-up notification's target, brought into flight. -/
def inTransport : List (Op Document) :=
  [.acquireOwner .core "core-process-0001" 1000000000 99000000000,
    .acquireOwner .delivery "delivery-process-1" 1000000000 99000000000,
    .persistOperatorNotification (drawsOf setupEvent) coreLease (deskNote .setup setupEvent) 3
      2000000000,
    .claimNext (drawsOf setupEvent) deliveryLease 3000000000 10000000000,
    .beginTransport (drawsOf setupEvent) deliveryLease (setupClaim 1 setupEvent) 3000000000
      10000000000]

def setupCancellation : Op Document :=
  .cancelEventAt (drawsOf readyEvent) coreLease "event-setup" "superseded" 3500000000 4000000000

/-- After the cancellation the transport fails, and the target is claimed again. -/
def retriedAfter : List (Op Document) :=
  [.settle (drawsOf readyEvent) deliveryLease (setupClaim 1 setupEvent).handle "event-setup"
      (.retryable "timeout" 6000000000) 5000000000,
    .claimNext (drawsOf exitEvent) deliveryLease 7000000000 10000000000]

theorem cancellation_fence_retried :
    let s := (play step (migrated : Ledger Document) inTransport).2
    let s₁ := (step s setupCancellation).2
    let s₂ := (play step s₁ retriedAfter).2
    (targetById s₂ "event-setup:bark").map (·.status) = some .claimed ∧
      ∀ attemptId s₃,
        step s₂ (.beginTransport (drawsOf exitEvent) deliveryLease (setupClaim 2 exitEvent)
          7000000000 10000000000) ≠ (.ok (.began (.started attemptId)), s₃) := by
  intro s s₁ s₂
  have hanswer : (step s setupCancellation).1 = .ok (.persisted .inserted) := by decide +kernel
  have hstep : step s setupCancellation = (.ok (.persisted .inserted), s₁) :=
    step_answered hanswer
  have hfence := cancellation_fence hstep (Run.play (allowed_anyStep retriedAfter s₁))
  have htarget : (targetById s₂ "event-setup:bark").map
      (fun t => (t.status, t.eventId)) = some (.claimed, "event-setup") := by decide +kernel
  obtain ⟨t, ht, hst⟩ := Option.map_eq_some_iff.mp htarget
  refine ⟨?_, fun attemptId s₃ hbegin => ?_⟩
  · rw [ht]
    exact congrArg some (Prod.ext_iff.mp hst).1
  · exact hfence.2.2.2 _ _ _ _ _ _ _ hbegin t ht (Prod.ext_iff.mp hst).2

end SpxSpark.Ledger
