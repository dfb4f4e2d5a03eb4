import SpxSpark.Lib.Run
import SpxSpark.Notifications.StoreSteps

/-!
# CancellationFence — what a cancellation of an event still lets through

A committed cancellation leaves its fence for good, so the event's enqueues insert nothing from then
on.
-/

namespace SpxSpark.Notifications

open Lib List

variable {sha256 : String → String} {s s' : Store}

/-! ## What keeps the fence -/

/-- `begin_attempt` will not look at the row any further. -/
def EventRow.Inert (r : EventRow) : Prop :=
  r.cancelledAt.isSome = true ∨ r.status = .delivered ∨ r.status = .processing
    ∨ r.status = .uncertain

/-- The row belongs to a cancelled event but was in flight when the event was cancelled. -/
def Store.outlivesFence (s : Store) (eventId : Nat) : Bool :=
  s.events.rows.any fun r =>
    decide (r.id = eventId) && fenced s.events r.logicalEventId && r.cancelledAt.isNone

/-- The calls that leave every fence standing: nothing is enqueued on the fence's own channel, and
no row in flight at its cancellation is settled as waiting or recovered as interrupted. -/
def LeavesFences (s : Store) : Request → Prop
  | .enqueue draft _ _ => cancellationChannel ∉ draft.channels
  | .settle attemptId settlement _ =>
    settlement.status = .pending ∨ settlement.status = .failed →
      ∀ a, s.attempt? attemptId = some a → s.outlivesFence a.eventId = false
  | .recoverIncompleteAttempts _ =>
    ∀ r ∈ s.events.rows, ∀ a, lastFor s.incompleteAttempts r.id = some a →
      a.attempted = false → s.outlivesFence r.id = false
  | _ => True

/-- Every row of a cancelled event is out of `begin_attempt`'s reach. -/
structure Fenced (s : Store) : Prop where
  marked : ∀ r ∈ s.events.rows, r.channel = cancellationChannel → r.cancelledAt.isSome = true
  inert : ∀ r ∈ s.events.rows, fenced s.events r.logicalEventId = true → r.Inert

variable {logicalEventId : String}

theorem fenced_iff {t : EventTable} : fenced t logicalEventId = true ↔
      ∃ r ∈ t.rows, r.logicalEventId = logicalEventId ∧ r.channel = cancellationChannel := by
  simp [fenced, EventRow.ofChannel]

variable {eventId : Nat}

theorem outlivesFence_iff :
    s.outlivesFence eventId = true ↔ ∃ r ∈ s.events.rows, r.id = eventId ∧
      fenced s.events r.logicalEventId = true ∧ r.cancelledAt = none := by
  simp [Store.outlivesFence, and_assoc]

/-- A step that rewrites rows without moving them to another event or channel, and appends none. -/
structure Rewrites (f : EventRow → EventRow) (t t' : EventTable) : Prop where
  rows : t'.rows = t.rows.map f
  logicalEventId : ∀ r, (f r).logicalEventId = r.logicalEventId
  channel : ∀ r, (f r).channel = r.channel

variable {f : EventRow → EventRow}

theorem Rewrites.fenced_eq {t t' : EventTable} (h : Rewrites f t t') (logicalEventId : String) :
    fenced t' logicalEventId = fenced t logicalEventId := by
  unfold fenced
  rw [h.rows, any_map]
  congr 1
  funext r
  show EventRow.ofChannel _ _ (f r) = _
  unfold EventRow.ofChannel
  rw [h.logicalEventId, h.channel]

theorem Fenced.rewrite (hs : Fenced s) (h : Rewrites f s.events s'.events)
    (hmark : ∀ r ∈ s.events.rows, r.cancelledAt.isSome = true → (f r).cancelledAt.isSome = true)
    (hinert : ∀ r ∈ s.events.rows, fenced s.events r.logicalEventId = true → r.Inert →
      (f r).Inert) : Fenced s' := by
  constructor
  · intro x hx hchannel
    rw [h.rows] at hx
    obtain ⟨r, hr, rfl⟩ := mem_map.mp hx
    rw [h.channel] at hchannel
    exact hmark r hr (hs.marked r hr hchannel)
  · intro x hx hfence
    rw [h.rows] at hx
    obtain ⟨r, hr, rfl⟩ := mem_map.mp hx
    rw [h.fenced_eq, h.logicalEventId] at hfence
    exact hinert r hr hfence (hs.inert r hr hfence)

theorem rewrites_setEvent (hk : ∀ r, eventSchema.key (f r) = eventSchema.key r)
    (hlogical : ∀ r, (f r).logicalEventId = r.logicalEventId)
    (hchannel : ∀ r, (f r).channel = r.channel) :
    Rewrites (fun r => if r.id = eventId then f r else r) s.events
      (s.setEvent eventId f hk).events := by
  refine ⟨setEvent_rows hk, fun r => ?_, fun r => ?_⟩
  · split
    · exact hlogical r
    · rfl
  · split
    · exact hchannel r
    · rfl

theorem fenced_setEvent (hk : ∀ r, eventSchema.key (f r) = eventSchema.key r)
    (hlogical : ∀ r, (f r).logicalEventId = r.logicalEventId)
    (hchannel : ∀ r, (f r).channel = r.channel) :
    fenced (s.setEvent eventId f hk).events logicalEventId = fenced s.events logicalEventId :=
  (rewrites_setEvent hk hlogical hchannel).fenced_eq _

variable {now : Instant}

theorem rewrites_recover : Rewrites (recoverRow s.incompleteAttempts now) s.events
    (recoverIncompleteAttempts s now).2.events := by
  refine ⟨recover_events, fun r => ?_, fun r => ?_⟩
  · unfold recoverRow
    split <;> rfl
  · unfold recoverRow
    split <;> rfl

/-! ## One lemma an operation -/

theorem fenced_append {t t' : EventTable} {new : List EventRow} (h : t'.rows = t.rows ++ new)
    (hold : fenced t logicalEventId = true) : fenced t' logicalEventId = true := by
  unfold fenced at hold ⊢
  rw [h, any_append, hold, Bool.true_or]

theorem Fenced.enqueue {draft : NotificationDraft} {accept : Bool} {b : EnqueueBatch}
    (hs : Fenced s) (hdraft : cancellationChannel ∉ draft.channels)
    (h : enqueue sha256 s draft now accept = .ok (b, s')) : Fenced s' := by
  rcases enqueue_ok h with ⟨-, -, rfl⟩ | ⟨hopen, -, -, new, hrows, hnew⟩
  · exact hs
  · have hchannel : ∀ r ∈ new, r.channel ≠ cancellationChannel := by
      intro r hr heq
      exact hdraft (heq ▸ (hnew r hr).1.channel)
    -- the new rows raise no fence
    have hfence : ∀ lid, fenced s'.events lid = true → fenced s.events lid = true := by
      intro lid hlid
      obtain ⟨r, hr, hl, hc⟩ := fenced_iff.mp hlid
      rw [hrows] at hr
      rcases mem_append.mp hr with hr | hr
      · exact fenced_iff.mpr ⟨r, hr, hl, hc⟩
      · exact absurd hc (hchannel r hr)
    constructor
    · intro r hr hc
      rw [hrows] at hr
      rcases mem_append.mp hr with hr | hr
      · exact hs.marked r hr hc
      · exact absurd hc (hchannel r hr)
    · intro r hr hlid
      have hold := hfence _ hlid
      rw [hrows] at hr
      rcases mem_append.mp hr with hr | hr
      · exact hs.inert r hr hold
      · rw [(hnew r hr).1.logicalEventId, hopen] at hold
        cases hold

theorem Fenced.cancel {reason : String} {n : Nat} (hs : Fenced s)
    (h : cancel sha256 s logicalEventId reason now = .ok (n, s')) :
    Fenced s' ∧ fenced s'.events logicalEventId = true := by
  obtain ⟨t, ht, -, hrows⟩ := cancel_ok h
  obtain ⟨hraised, hfrom⟩ := raiseFence_ok ht
  have hmarked : ∀ r ∈ t.rows, r.channel = cancellationChannel → r.cancelledAt.isSome = true := by
    intro r hr hc
    rcases hfrom with rfl | hfrom
    · exact hs.marked r hr hc
    · rw [hfrom] at hr
      rcases mem_append.mp hr with hr | hr
      · exact hs.marked r hr hc
      · rw [mem_singleton.mp hr]
        rfl
  have hrewrites : Rewrites (fun r => if r.cancellable logicalEventId then r.cancel reason now
      else r) t s'.events := by
    refine ⟨hrows, fun r => ?_, fun r => ?_⟩
    · split <;> rfl
    · split <;> rfl
  refine ⟨⟨?_, ?_⟩, (hrewrites.fenced_eq _).trans hraised⟩
  · intro x hx hc
    rw [hrows] at hx
    obtain ⟨r, hr, rfl⟩ := mem_map.mp hx
    rw [hrewrites.channel] at hc
    have hr' := hmarked r hr hc
    split
    · rfl
    · exact hr'
  · intro x hx hfence
    rw [hrows] at hx
    obtain ⟨r, hr, rfl⟩ := mem_map.mp hx
    rw [hrewrites.fenced_eq, hrewrites.logicalEventId] at hfence
    split
    · exact .inl rfl
    · rename_i hcancellable
      by_cases hlid : r.logicalEventId = logicalEventId
      · by_cases hc : r.channel = cancellationChannel
        · exact .inl (hmarked r hr hc)
        · -- a row of the event that was not waiting
          have hstatus : r.status ≠ .pending ∧ r.status ≠ .failed := by
            simpa [EventRow.cancellable, hlid, hc] using hcancellable
          cases hstat : r.status with
          | pending => exact absurd hstat hstatus.1
          | failed => exact absurd hstat hstatus.2
          | processing => exact .inr (.inr (.inl hstat))
          | delivered => exact .inr (.inl hstat)
          | uncertain => exact .inr (.inr (.inr hstat))
      · -- another event, whose fence was there before
        rcases hfrom with rfl | hfrom
        · exact hs.inert r hr hfence
        · obtain ⟨m, hm, hml, hmc⟩ := fenced_iff.mp hfence
          rw [hfrom] at hm hr
          have hm' : m ∈ s.events.rows := by
            rcases mem_append.mp hm with hm | hm
            · exact hm
            · rw [mem_singleton.mp hm] at hml
              exact absurd hml.symm hlid
          rcases mem_append.mp hr with hr | hr
          · exact hs.inert r hr (fenced_iff.mpr ⟨m, hm', hml, hmc⟩)
          · rw [mem_singleton.mp hr] at hlid
            exact absurd rfl hlid

/-- `begin_attempt` never begins an attempt of an inert row. -/
theorem beginAttempt_inert {maxAttempts : Nat} {o : Option Attempt} {r : EventRow}
    (hr : s.event? eventId = some r) (hinert : r.Inert)
    (h : beginAttempt s eventId maxAttempts now = .ok (o, s')) : o = none ∧ s' = s := by
  have hno : ¬ r.Startable := by
    rintro ⟨hcancelled, hstatus⟩
    rcases hinert with hi | hi | hi | hi
    · simp [hcancelled] at hi
    all_goals
      rw [hi] at hstatus
      rcases hstatus with hst | hst <;> cases hst
  rcases beginAttempt_ok h with hnone | ⟨row, hrow, hstart, -⟩ | ⟨row, a, -, hbegun⟩
  · exact hnone
  · rw [hr] at hrow
    cases hrow
    exact absurd hstart hno
  · have hrow := hbegun.found
    rw [hr] at hrow
    cases hrow
    exact absurd hbegun.startable hno

theorem Fenced.beginAttempt {maxAttempts : Nat} {o : Option Attempt} (hs : Fenced s)
    (h : beginAttempt s eventId maxAttempts now = .ok (o, s')) : Fenced s' := by
  -- the row an attempt begins on, or expires, is of an event that nobody cancelled
  have hfree : ∀ row, s.event? eventId = some row → row.Startable → ∀ r ∈ s.events.rows,
      r.id = eventId → fenced s.events r.logicalEventId = true → r.Inert → False := by
    intro row hrow hstart r hr hid hfence _
    obtain ⟨hrow', hid'⟩ := event?_mem hrow
    obtain rfl := eventRow_eq_of_id hrow' hr (hid'.trans hid.symm)
    have hinert := beginAttempt_inert hrow (hs.inert _ hr hfence) h
    rcases hs.inert _ hr hfence with hi | hi
    · rw [hstart.1] at hi
      cases hi
    · rcases hstart.2 with hst | hst <;> rw [hst] at hi <;> simp at hi
  rcases beginAttempt_ok h with ⟨-, rfl⟩ | ⟨row, hrow, hstart, -, -, rfl⟩ | ⟨row, a, -, hbegun⟩
  · exact hs
  · refine hs.rewrite (rewrites_setEvent (EventRow.expire_key now) (fun _ => rfl)
      (fun _ => rfl)) ?_ ?_
    · intro r _ hmark
      split <;> exact hmark
    · intro r hr hfence hinert
      split
      · rename_i hid
        exact (hfree row hrow hstart r hr hid hfence hinert).elim
      · exact hinert
  · rw [hbegun.store]
    refine hs.rewrite (rewrites_setEvent (EventRow.process_key now) (fun _ => rfl)
      (fun _ => rfl)) ?_ ?_
    · intro r _ hmark
      split <;> exact hmark
    · intro r _ _ hinert
      split
      · exact .inr (.inr (.inl rfl))
      · exact hinert

theorem inert_of_status {r : EventRow} (h : ¬ (r.status = .pending ∨ r.status = .failed)) :
    r.Inert := by
  rw [not_or] at h
  cases hs : r.status with
  | pending => exact absurd hs h.1
  | failed => exact absurd hs h.2
  | processing => exact .inr (.inr (.inl hs))
  | delivered => exact .inr (.inl hs)
  | uncertain => exact .inr (.inr (.inr hs))

theorem cancelled_of_fenced {r : EventRow} (hr : r ∈ s.events.rows)
    (hfence : fenced s.events r.logicalEventId = true) (hkeeps : s.outlivesFence r.id = false) :
    r.cancelledAt.isSome = true := by
  cases hc : r.cancelledAt with
  | some _ => rfl
  | none =>
    have hout := outlivesFence_iff.mpr ⟨r, hr, rfl, hfence, hc⟩
    rw [hkeeps] at hout
    cases hout

theorem Fenced.settle {attemptId : Nat} {settlement : Settlement} {now : Instant} (hs : Fenced s)
    (hok : LeavesFences s (.settle attemptId settlement now))
    (h : settle s attemptId settlement now = .ok s') : Fenced s' := by
  obtain ⟨-, a, ha, rfl⟩ := settle_ok h
  refine hs.rewrite (rewrites_setEvent (s := s.setAttempt attemptId _ _)
    (EventRow.settle_key settlement now) (fun _ => rfl) (fun _ => rfl)) ?_ ?_
  · intro r _ hmark
    split <;> exact hmark
  · intro r hr hfence hinert
    split
    · rename_i hid
      by_cases hwaits : settlement.status = .pending ∨ settlement.status = .failed
      · have hmark := cancelled_of_fenced hr hfence (hid ▸ hok hwaits a ha)
        exact .inl hmark
      · exact inert_of_status hwaits
    · exact hinert

theorem Fenced.recover (hs : Fenced s) (hok : LeavesFences s (.recoverIncompleteAttempts now)) :
    Fenced (recoverIncompleteAttempts s now).2 := by
  refine hs.rewrite rewrites_recover ?_ ?_
  · intro r _ hmark
    unfold recoverRow
    split <;> exact hmark
  · intro r hr hfence hinert
    unfold recoverRow
    split
    · rename_i a ha
      by_cases hstarted : a.attempted = true
      · refine .inr (.inr (.inr ?_))
        show recoveryStatus a.attempted = _
        rw [hstarted]
        rfl
      · have hmark := cancelled_of_fenced hr hfence (hok r hr a ha (by simpa using hstarted))
        exact .inl hmark
    · exact hinert

/-! ## Runs -/

/-- **One step.** A call that leaves the fences keeps every cancelled event's rows out of reach. -/
theorem Fenced.step {i : Request} (hs : Fenced s) (hok : LeavesFences s i) :
    Fenced (step sha256 s i).2 := by
  cases i with
  | enqueue draft now accept =>
    show Fenced (answer s .batch (Notifications.enqueue sha256 s draft now accept)).2
    cases h : Notifications.enqueue sha256 s draft now accept with
    | error e => exact hs
    | ok out => exact hs.enqueue hok h
  | cancel logicalEventId reason now =>
    show Fenced (answer s .cancelled (Notifications.cancel sha256 s logicalEventId reason now)).2
    cases h : Notifications.cancel sha256 s logicalEventId reason now with
    | error e => exact hs
    | ok out => exact (hs.cancel h).1
  | beginAttempt eventId maxAttempts now =>
    show Fenced (answer s .attempt (Notifications.beginAttempt s eventId maxAttempts now)).2
    cases h : Notifications.beginAttempt s eventId maxAttempts now with
    | error e => exact hs
    | ok out => exact hs.beginAttempt h
  | markTransportStarted attemptId => exact ⟨hs.marked, hs.inert⟩
  | settle attemptId settlement now =>
    show Fenced (answer s _ ((Notifications.settle s attemptId settlement now).map _)).2
    cases h : Notifications.settle s attemptId settlement now with
    | error e => exact hs
    | ok s' => exact hs.settle hok h
  | recoverIncompleteAttempts now => exact hs.recover hok
  | dueEventIds limit => exact hs

theorem fenced_step {i : Request} (hfence : fenced s.events logicalEventId = true) :
    fenced (step sha256 s i).2.events logicalEventId = true := by
  cases i with
  | enqueue draft now accept =>
    show fenced (answer s .batch (enqueue sha256 s draft now accept)).2.events _ = true
    cases h : enqueue sha256 s draft now accept with
    | error e => exact hfence
    | ok out =>
      rcases enqueue_ok h with ⟨-, -, hs⟩ | ⟨-, -, -, new, hrows, -⟩
      · show fenced out.2.events _ = true
        rw [hs]
        exact hfence
      · exact fenced_append hrows hfence
  | cancel lid reason now =>
    show fenced (answer s .cancelled (cancel sha256 s lid reason now)).2.events _ = true
    cases h : cancel sha256 s lid reason now with
    | error e => exact hfence
    | ok out =>
      obtain ⟨t, ht, -, hrows⟩ := cancel_ok h
      obtain ⟨m, hm, hml, hmc⟩ := fenced_iff.mp hfence
      have hm' : m ∈ t.rows := by
        rcases (raiseFence_ok ht).2 with rfl | hfrom
        · exact hm
        · rw [hfrom]
          exact mem_append_left _ hm
      refine fenced_iff.mpr ⟨_, (hrows ▸ mem_map_of_mem hm' : _ ∈ out.2.events.rows), ?_⟩
      split <;> exact ⟨hml, hmc⟩
  | beginAttempt eventId maxAttempts now =>
    show fenced (answer s .attempt (beginAttempt s eventId maxAttempts now)).2.events _ = true
    cases h : beginAttempt s eventId maxAttempts now with
    | error e => exact hfence
    | ok out =>
      show fenced out.2.events _ = true
      rcases beginAttempt_ok h with ⟨-, hs⟩ | ⟨row, -, -, -, -, hs⟩ | ⟨row, a, -, hbegun⟩
      · rw [hs]
        exact hfence
      · rw [hs, fenced_setEvent (EventRow.expire_key now) (fun _ => rfl) (fun _ => rfl)]
        exact hfence
      · rw [hbegun.store, addAttempt_events,
          fenced_setEvent (EventRow.process_key now) (fun _ => rfl) (fun _ => rfl)]
        exact hfence
  | markTransportStarted attemptId => exact hfence
  | settle attemptId settlement now =>
    show fenced (answer s _ ((settle s attemptId settlement now).map _)).2.events _ = true
    cases h : settle s attemptId settlement now with
    | error e => exact hfence
    | ok s' =>
      obtain ⟨-, a, -, hs⟩ := settle_ok h
      show fenced s'.events _ = true
      rw [hs, fenced_setEvent (EventRow.settle_key settlement now) (fun _ => rfl) (fun _ => rfl)]
      exact hfence
  | recoverIncompleteAttempts now => exact (rewrites_recover.fenced_eq _).trans hfence
  | dueEventIds limit => exact hfence

/-- No call begins an attempt on a channel of the event, and none inserts a row for it. -/
def OutOfReach (sha256 : String → String) (logicalEventId : String) (s : Store) : Prop :=
  (∀ r ∈ s.events.rows, r.logicalEventId = logicalEventId → ∀ maxAttempts now a,
      (step sha256 s (.beginAttempt r.id maxAttempts now)).1 ≠ .attempt (some a)) ∧
    ∀ draft now accept, draft.logicalEventId = logicalEventId →
      (step sha256 s (.enqueue draft now accept)).2 = s

theorem Fenced.outOfReach (hs : Fenced s) (hfence : fenced s.events logicalEventId = true) :
    OutOfReach sha256 logicalEventId s := by
  constructor
  · intro r hr hlid maxAttempts now a hreply
    have hinert := hs.inert r hr (hlid ▸ hfence)
    change (answer s .attempt (Notifications.beginAttempt s r.id maxAttempts now)).1 = _ at hreply
    cases h : Notifications.beginAttempt s r.id maxAttempts now with
    | error e =>
      rw [h] at hreply
      cases hreply
    | ok out =>
      have hnone := (beginAttempt_inert (event?_of_mem hr) hinert h).1
      rw [h] at hreply
      have hsome : out.1 = some a := Reply.attempt.inj hreply
      rw [hnone] at hsome
      cases hsome
  · intro draft now accept hlid
    exact enqueue_fenced (hlid ▸ hfence)

/-- **A cancelled event stays out of reach.** Whatever ran before the cancellation and runs after
it, by however many callers, as long as every call leaves the fences. -/
theorem cancelled_event_out_of_reach {past rest : List (Request × Reply)} {s s₁ s₂ : Store}
    {logicalEventId reason : String} {now : Instant} {n : Nat}
    (hbefore : Run (step sha256) LeavesFences Store.empty past s)
    (hcancel : step sha256 s (.cancel logicalEventId reason now) = (.cancelled n, s₁))
    (hafter : Run (step sha256) LeavesFences s₁ rest s₂) : OutOfReach sha256 logicalEventId s₂ := by
  have hempty : Fenced Store.empty := ⟨by simp [Store.empty, Table.empty], by
    simp [Store.empty, Table.empty]⟩
  have hs : Fenced s := hbefore.invariant hempty fun _ _ hs hok => hs.step hok
  have hraised : Fenced s₁ ∧ fenced s₁.events logicalEventId = true := by
    change answer s .cancelled (cancel sha256 s logicalEventId reason now) = _ at hcancel
    cases h : cancel sha256 s logicalEventId reason now with
    | error e =>
      rw [h] at hcancel
      cases hcancel
    | ok out =>
      rw [h] at hcancel
      obtain rfl : out.2 = s₁ := (Prod.ext_iff.mp hcancel).2
      exact hs.cancel h
  have hs₂ : Fenced s₂ ∧ fenced s₂.events logicalEventId = true :=
    hafter.invariant (I := fun t => Fenced t ∧ fenced t.events logicalEventId = true) hraised
      fun _ _ ht hok => ⟨ht.1.step hok, fenced_step ht.2⟩
  exact hs₂.1.outOfReach hs₂.2

/-! ## A row in flight at its cancellation -/

def readyDraft : NotificationDraft where
  logicalEventId := "ready"
  payload := ⟨"{}", none⟩
  channels := ["bark", "feishu"]
  expiresAt := none

def readyInFlight : List Request :=
  [.enqueue readyDraft 0 false, .beginAttempt 1 3 1000000]

def readyCancelled : Request := .cancel "ready" "superseded" 2000000

/-- The transport in flight fails, and may be tried again. -/
def settledRetryable : List Request :=
  [.markTransportStarted 1,
    .settle 1 ⟨.failed, "retryable_failure", false, some "retryable_failure",
      some "timeout"⟩ 3000000]

/-- The fence is up, and the row that was in flight begins its next attempt. -/
theorem cancelled_in_flight_retried :
    ∃ past s n s₁ rest s₂, Run (step id) anyStep Store.empty past s ∧
      step id s readyCancelled = (.cancelled n, s₁) ∧ Run (step id) anyStep s₁ rest s₂ ∧
        ¬ OutOfReach id "ready" s₂ := by
  refine ⟨_, _, 1, _, _, _, Run.play (allowed_anyStep readyInFlight Store.empty),
    step_answered (by decide +kernel), Run.play (allowed_anyStep settledRetryable _), ?_⟩
  intro hout
  let s₂ := (play (step id) (step id (play (step id) Store.empty readyInFlight).2
    readyCancelled).2 settledRetryable).2
  have hrow : ∃ r ∈ s₂.events.rows, r.id = 1 ∧ r.logicalEventId = "ready" := by decide +kernel
  obtain ⟨r, hr, hid, hlid⟩ := hrow
  have hbegun : (step id s₂ (.beginAttempt 1 3 4000000)).1 =
      .attempt (some ⟨2, 1, 2, "bark", ⟨"{}", none⟩⟩) := by decide +kernel
  exact hout.1 r hr hlid 3 4000000 _ (hid ▸ hbegun)

/-- Settled as delivered instead, the event stays out of reach on both channels. -/
theorem cancelled_event_out_of_reach_delivered : OutOfReach id "ready"
      (play (step id) (step id (play (step id) Store.empty readyInFlight).2 readyCancelled).2
        [.settle 1 ⟨.delivered, "delivered", true, none, none⟩ 3000000]).2 := by
  have hbefore : Allowed (step id) LeavesFences Store.empty readyInFlight :=
    ⟨show cancellationChannel ∉ readyDraft.channels by decide, trivial, trivial⟩
  have hafter : Allowed (step id) LeavesFences
      (step id (play (step id) Store.empty readyInFlight).2 readyCancelled).2
      [.settle 1 ⟨.delivered, "delivered", true, none, none⟩ 3000000] := by
    refine ⟨?_, trivial⟩
    rintro (hpending | hfailed)
    · cases hpending
    · cases hfailed
  exact cancelled_event_out_of_reach (Run.play hbefore)
    (step_answered (show _ = Reply.cancelled 1 by decide +kernel)) (Run.play hafter)

end SpxSpark.Notifications
