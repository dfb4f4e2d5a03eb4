import SpxSpark.Notifications.Delivery

/-!
# StartupRecovery — what a restart schedules again

`recover_notification_tasks` closes the attempts it finds open on rows in processing and schedules
those that had not started their transport.
-/

namespace SpxSpark.Notifications

open Lib

variable {sha256 : String → String} {s : Store} {o : Outbox} {now : Instant}

/-! ## Rows that wait, and transports nobody knows the outcome of -/

/-- Outcomes after which the row is to be tried again. -/
def triedAgain (outcome : String) : Bool :=
  raisesRetryable outcome || decide (outcome = "interrupted_before_transport")

/-- The row waits for a worker: `begin_attempt` would still accept it. -/
def Store.waits (s : Store) (now : Instant) (r : EventRow) : Bool :=
  r.cancelledAt.isNone && !r.expired now &&
    (decide (r.status = .pending) ||
      (decide (r.status = .failed) &&
        (match lastFor s.attempts.rows r.id with
          | some a => triedAgain a.outcome
          | none => false) &&
        decide ((s.attemptsOf r.id).length < maxDeliveryAttempts)))

/-- A transport of the row was started and nobody knows how it ended. -/
def Store.outcomeUnknown (s : Store) (eventId : Nat) : Prop :=
  ∃ a ∈ s.attemptsOf eventId, a.attempted = true ∧
    (a.finishedAt = none ∨ a.outcome = "transport_outcome_uncertain")

/-- The recovery at `now` leaves no row waiting that was not scheduled since the process stopped,
and schedules no row whose transport may have been sent. -/
structure RecoveryComplete (o : Outbox) (now : Instant) : Prop where
  scheduled : ∀ r ∈ (o.recoverNotificationTasks now none).store.events.rows,
    (o.recoverNotificationTasks now none).store.waits now r = true →
      r.id ∈ (o.recoverNotificationTasks now none).scheduled
  known : ∀ eventId ∈ (recoverIncompleteAttempts o.store now).1.retryEventIds,
    ¬ (o.recoverNotificationTasks now none).store.outcomeUnknown eventId

/-- Nothing is left for the recovery but attempts to close: every row that waits already has been
scheduled since the stop, and no row is both interrupted and possibly sent. -/
structure NothingLeft (o : Outbox) (now : Instant) : Prop where
  scheduled : ∀ r ∈ o.store.events.rows, o.store.waits now r = true → r.id ∈ o.scheduled
  known : ∀ a ∈ o.store.incompleteAttempts, a.attempted = false →
    ¬ o.store.outcomeUnknown a.eventId

/-! ## What recovery does to one row -/

theorem mem_retryEventIds {eventId : Nat} :
    eventId ∈ (recoverIncompleteAttempts s now).1.retryEventIds ↔
      ∃ a ∈ s.incompleteAttempts, a.attempted = false ∧ a.eventId = eventId := by
  simp [recoverIncompleteAttempts, and_assoc]

theorem attempts_unrecovered {eventId : Nat} (h : lastFor s.incompleteAttempts eventId = none) :
    (recoverIncompleteAttempts s now).2.attemptsOf eventId = s.attemptsOf eventId := by
  rw [attemptsOf_recover]
  refine (List.map_congr_left fun a ha => ?_).trans (List.map_id _)
  unfold closeAttempt
  rw [if_neg]
  · rfl
  · intro hin
    exact lastFor_none.mp h a hin (mem_attemptsOf.mp ha).2

theorem waits_unrecovered {r : EventRow} (h : lastFor s.incompleteAttempts r.id = none) :
    (recoverIncompleteAttempts s now).2.waits now r = s.waits now r := by
  have hof : (recoverIncompleteAttempts s now).2.attemptsOf r.id = s.attemptsOf r.id :=
    attempts_unrecovered h
  have hlast : lastFor (recoverIncompleteAttempts s now).2.attempts.rows r.id =
      lastFor s.attempts.rows r.id := congrArg List.getLast? hof
  unfold Store.waits
  rw [hof, hlast]

theorem lastFor_incomplete_none {r : EventRow} (hr : r ∈ s.events.rows)
    (hstatus : r.status ≠ .processing) : lastFor s.incompleteAttempts r.id = none := by
  rw [lastFor_none]
  intro a ha hid
  obtain ⟨-, -, x, hx, hxid, hxstatus⟩ := mem_incompleteAttempts.mp ha
  obtain rfl := eventRow_eq_of_id hx hr (hxid.trans hid)
  exact hstatus hxstatus

theorem not_processing_of_waits {r : EventRow} (h : s.waits now r = true) :
    r.status = .pending ∨ r.status = .failed := by
  unfold Store.waits at h
  rw [Bool.and_eq_true, Bool.or_eq_true] at h
  rcases h.2 with hp | hf
  · exact .inl (of_decide_eq_true hp)
  · rw [Bool.and_eq_true, Bool.and_eq_true] at hf
    exact .inr (of_decide_eq_true hf.1.1)

theorem outcomeUnknown_recover {eventId : Nat} :
    (recoverIncompleteAttempts s now).2.outcomeUnknown eventId ↔ s.outcomeUnknown eventId := by
  have hattempted : ∀ a, (closeAttempt s.incompleteAttempts now a).attempted = a.attempted := by
    intro a
    unfold closeAttempt
    split <;> rfl
  unfold Store.outcomeUnknown
  rw [attemptsOf_recover]
  constructor
  · rintro ⟨a', ha', hstarted, hunknown⟩
    obtain ⟨a, ha, rfl⟩ := List.mem_map.mp ha'
    rw [hattempted] at hstarted
    refine ⟨a, ha, hstarted, ?_⟩
    by_cases hin : a ∈ s.incompleteAttempts
    · exact .inl (mem_incompleteAttempts.mp hin).2.1
    · unfold closeAttempt at hunknown
      rw [if_neg hin] at hunknown
      exact hunknown
  · rintro ⟨a, ha, hstarted, hunknown⟩
    refine ⟨_, List.mem_map_of_mem ha, (hattempted a).trans hstarted, ?_⟩
    unfold closeAttempt
    split
    · refine .inr ?_
      show recoveryOutcome a.attempted = _
      rw [hstarted]
      rfl
    · exact hunknown

/-! ## The recovery as a whole -/

theorem RecoveryComplete.nothingLeft (h : RecoveryComplete o now) : NothingLeft o now := by
  constructor
  · intro r hr hwaits
    have hstatus : r.status ≠ .processing := by
      intro hp
      rcases not_processing_of_waits hwaits with hw | hw <;>
      · rw [hp] at hw
        cases hw
    have hlast := lastFor_incomplete_none hr hstatus
    have hmem : r ∈ (o.recoverNotificationTasks now none).store.events.rows := by
      show r ∈ (recoverIncompleteAttempts o.store now).2.events.rows
      rw [recover_events]
      refine List.mem_map.mpr ⟨r, hr, ?_⟩
      unfold recoverRow
      rw [hlast]
    have hin := h.scheduled r hmem ((waits_unrecovered hlast).trans hwaits)
    rcases List.mem_append.mp hin with hin | hin
    · exact hin
    · obtain ⟨a, ha, -, hid⟩ := mem_retryEventIds.mp hin
      exact absurd hid (lastFor_none.mp hlast a ha)
  · intro a ha hstarted hunknown
    exact h.known a.eventId (mem_retryEventIds.mpr ⟨a, ha, hstarted, rfl⟩)
      (outcomeUnknown_recover.mpr hunknown)

theorem NothingLeft.recoveryComplete (h : NothingLeft o now) : RecoveryComplete o now := by
  constructor
  · intro x hx hwaits
    have hx' : x ∈ o.store.events.rows.map (recoverRow o.store.incompleteAttempts now) :=
      recover_events ▸ hx
    obtain ⟨r, hr, rfl⟩ := List.mem_map.mp hx'
    cases hlast : lastFor o.store.incompleteAttempts r.id with
    | some a =>
      -- the row waits because its attempt was interrupted, and was scheduled for that
      obtain ⟨ha, hid⟩ := lastFor_mem hlast
      have hrow : recoverRow o.store.incompleteAttempts now r = r.recover a.attempted now := by
        unfold recoverRow
        rw [hlast]
      rw [hrow] at hwaits ⊢
      have hinterrupted : a.attempted = false := by
        cases hstarted : a.attempted with
        | false => rfl
        | true =>
          rw [hstarted] at hwaits
          rcases not_processing_of_waits hwaits with hw | hw <;> cases hw
      exact List.mem_append_right _ (mem_retryEventIds.mpr ⟨a, ha, hinterrupted, hid⟩)
    | none =>
      have hrow : recoverRow o.store.incompleteAttempts now r = r := by
        unfold recoverRow
        rw [hlast]
      rw [hrow] at hwaits ⊢
      exact List.mem_append_left _ (h.scheduled r hr ((waits_unrecovered hlast).symm.trans hwaits))
  · intro eventId heventId hunknown
    obtain ⟨a, ha, hstarted, rfl⟩ := mem_retryEventIds.mp heventId
    exact h.known a ha hstarted (outcomeUnknown_recover.mp hunknown)

/-- **Startup recovery.** At every recovery of every run, what waits afterwards has all been
scheduled, and nothing that may have been sent, exactly when nothing but open attempts was left. -/
theorem startup_recovery_complete_iff {evs : List (Action × Unit)}
    (h : Run (actStep sha256) anyStep Outbox.empty evs o) :
    ∀ past now rest, evs = past ++ (.recoverNotificationTasks now none, ()) :: rest →
      ∃ q, Run (actStep sha256) anyStep Outbox.empty past q ∧
        (RecoveryComplete q now ↔ NothingLeft q now) := by
  rintro past now rest rfl
  obtain ⟨q, hpast, -, -⟩ := h.split
  exact ⟨q, hpast, RecoveryComplete.nothingLeft, NothingLeft.recoveryComplete⟩

/-! ## A stop between a commit and its task -/

def openingDraft : NotificationDraft where
  logicalEventId := "opening"
  payload := ⟨"{}", none⟩
  channels := ["bark"]
  expiresAt := none

/-- The process stops before it has scheduled the row it committed. -/
def stoppedUnscheduled : List Action := [.enqueue openingDraft 0 false (some 0)]

/-- The row waits after the recovery as it did before, and no task for it was ever in the queue. -/
theorem unscheduled_row_forgotten :
    ∃ past q, Run (actStep id) anyStep Outbox.empty past q ∧ ¬ RecoveryComplete q 1000000 ∧
      (q.recoverNotificationTasks 1000000 none).queue = [] := by
  refine ⟨_, _, Run.play (allowed_anyStep stoppedUnscheduled Outbox.empty), fun hcomplete => ?_,
    by decide +kernel⟩
  let q := (play (actStep id) Outbox.empty stoppedUnscheduled).2
  have hwaits : ∃ r ∈ (q.recoverNotificationTasks 1000000 none).store.events.rows,
      (q.recoverNotificationTasks 1000000 none).store.waits 1000000 r = true ∧
        r.id ∉ (q.recoverNotificationTasks 1000000 none).scheduled := by decide +kernel
  obtain ⟨r, hr, hw, hno⟩ := hwaits
  exact hno (hcomplete.scheduled r hr hw)

/-- A worker interrupted before its transport is the case the recovery is for. -/
theorem startup_recovery_interrupted : ∃ q, Run (actStep id) anyStep Outbox.empty
        [(.enqueue openingDraft 0 false none, ()), (.deliver 1 1000000 true, ()), (.stop, ())] q ∧
      (RecoveryComplete q 2000000 ↔ NothingLeft q 2000000) :=
  startup_recovery_complete_iff
    (Run.play (allowed_anyStep [.enqueue openingDraft 0 false none, .deliver 1 1000000 true, .stop,
      .recoverNotificationTasks 2000000 none] Outbox.empty))
    [(.enqueue openingDraft 0 false none, ()), (.deliver 1 1000000 true, ()), (.stop, ())]
    2000000 [] rfl

end SpxSpark.Notifications
