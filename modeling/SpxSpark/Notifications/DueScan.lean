import SpxSpark.Notifications.StartupRecovery
import SpxSpark.Notifications.TerminalOutcomes

/-!
# DueScan — what becomes of the row at the head of the scan

The consumer takes the oldest due row and delivers it. In every run the delivery starts an attempt,
unless the row has expired. A row that expires before its first attempt never comes up again; one
that failed before and has expired since stays at the head of the scan.
-/

namespace SpxSpark.Notifications

open Lib List

variable {sha256 : String → String} {o o' : Outbox} {s s' : Store} {r : EventRow} {now : Instant}

/-! ## Counting attempts -/

/-- The attempts of a row are numbered from 1, and a pending row has none. -/
structure Counted (s : Store) : Prop where
  numbered : ∀ eventId, (s.attemptsOf eventId).map AttemptRow.attemptNo =
    List.range' 1 (s.attemptsOf eventId).length
  untried : ∀ r ∈ s.events.rows, r.status = .pending → s.attemptsOf r.id = []
  owned : ∀ a ∈ s.attempts.rows, ∃ r ∈ s.events.rows, r.id = a.eventId

theorem Counted.previous (hs : Counted s) (eventId : Nat) :
    s.previousAttemptNo eventId = (s.attemptsOf eventId).length := by
  rw [Store.previousAttemptNo, hs.numbered, foldr_max_range']

/-- What an action leaves that begins no attempt: the rows it found, rewritten in place, and new
event rows behind them. No row is made pending again. -/
structure Touched (s s' : Store) : Prop where
  attempts : ∃ f : AttemptRow → AttemptRow, s'.attempts.rows = s.attempts.rows.map f ∧
    ∀ a, (f a).eventId = a.eventId ∧ (f a).attemptNo = a.attemptNo
  events : ∃ (g : EventRow → EventRow) (new : List EventRow),
    s'.events.rows = s.events.rows.map g ++ new ∧
      ∀ r, (g r).id = r.id ∧ (g r).expiresAt = r.expiresAt ∧
        ((g r).status = .pending → r.status = .pending)

theorem Touched.refl (s : Store) : Touched s s where
  attempts := ⟨id, (map_id _).symm, fun _ => ⟨rfl, rfl⟩⟩
  events := ⟨id, [], by simp, fun _ => ⟨rfl, rfl, id⟩⟩

theorem Touched.attemptsOf (h : Touched s s') : ∃ f : AttemptRow → AttemptRow,
    (∀ a, (f a).attemptNo = a.attemptNo) ∧
      ∀ eventId, s'.attemptsOf eventId = (s.attemptsOf eventId).map f := by
  obtain ⟨f, hattempts, hf⟩ := h.attempts
  refine ⟨f, fun a => (hf a).2, fun eventId => ?_⟩
  unfold Store.attemptsOf
  rw [hattempts, filter_map]
  congr 1
  exact filter_congr fun a _ => by simp [(hf a).1]

theorem Touched.setEvent (eventId : Nat) {f : EventRow → EventRow}
    (hk : ∀ r, eventSchema.key (f r) = eventSchema.key r)
    (hf : ∀ r, (f r).expiresAt = r.expiresAt ∧ ((f r).status = .pending → r.status = .pending)) :
    Touched s (s.setEvent eventId f hk) where
  attempts := (Touched.refl s).attempts
  events := by
    refine ⟨fun r => if r.id = eventId then f r else r, [], by simp [setEvent_rows], fun r => ?_⟩
    dsimp only
    split
    · exact ⟨congrArg Prod.fst (hk r), hf r⟩
    · exact ⟨rfl, rfl, id⟩

theorem Touched.setAttempt (attemptId : Nat) {f : AttemptRow → AttemptRow}
    (hk : ∀ a, attemptSchema.key (f a) = attemptSchema.key a)
    (hf : ∀ a, (f a).eventId = a.eventId ∧ (f a).attemptNo = a.attemptNo) :
    Touched s (s.setAttempt attemptId f hk) where
  attempts := by
    refine ⟨fun a => if a.id = attemptId then f a else a, setAttempt_rows hk, fun a => ?_⟩
    dsimp only
    split
    · exact hf a
    · exact ⟨rfl, rfl⟩
  events := (Touched.refl s).events

theorem Counted.touch (hs : Counted s) (h : Touched s s') : Counted s' := by
  obtain ⟨f, hno, hof⟩ := h.attemptsOf
  obtain ⟨f', hattempts, hf'⟩ := h.attempts
  obtain ⟨g, new, hrows, hg⟩ := h.events
  refine ⟨fun e => ?_, fun x hx hpending => ?_, fun a' ha' => ?_⟩
  · rw [hof, map_map, length_map, ← hs.numbered e]
    exact map_congr_left fun a _ => hno a
  · rw [hof, map_eq_nil_iff]
    rw [hrows] at hx
    rcases mem_append.mp hx with hx | hx
    · obtain ⟨r, hr, rfl⟩ := mem_map.mp hx
      rw [(hg r).1]
      exact hs.untried r hr ((hg r).2.2 hpending)
    · -- an appended row has an id of its own
      refine filter_eq_nil_iff.mpr fun a ha hid => ?_
      obtain ⟨r, hr, hrid⟩ := hs.owned a ha
      have hdistinct := s'.events.distinct
      rw [hrows, pairwise_append] at hdistinct
      have hclash := hdistinct.2.2 (g r) (mem_map_of_mem hr) x hx
      simp [(hg r).1, hrid, of_decide_eq_true hid] at hclash
  · rw [hattempts] at ha'
    obtain ⟨a, ha, rfl⟩ := mem_map.mp ha'
    obtain ⟨r, hr, hid⟩ := hs.owned a ha
    rw [hrows, (hf' a).1]
    exact ⟨g r, mem_append_left _ (mem_map_of_mem hr), (hg r).1.trans hid⟩

theorem Counted.begun {row : EventRow} {eventId maxAttempts : Nat} {a : Attempt} (hs : Counted s)
    (h : Begun s s' row eventId maxAttempts now a) : Counted s' := by
  obtain ⟨hrow, hid⟩ := event?_mem h.found
  have hset : Counted (s.setEvent eventId (EventRow.process now) (EventRow.process_key now)) :=
    hs.touch (.setEvent eventId _ fun _ => ⟨rfl, nofun⟩)
  rw [h.store]
  refine ⟨fun e => ?_, fun x hx hpending => ?_, fun b hb => ?_⟩
  · rw [attemptsOf_addAttempt, attemptsOf_setEvent]
    split
    · subst e
      rw [map_append, hs.numbered, length_append, length_singleton,
        range'_concat, ← hs.previous eventId]
      simp [Store.newAttempt, Store.previousAttemptNo, Nat.add_comm]
    · rw [append_nil]
      exact hs.numbered e
  · have hne : x.id ≠ eventId := by
      intro hx'
      rw [addAttempt_events, setEvent_rows] at hx
      obtain ⟨y, -, rfl⟩ := mem_map.mp hx
      split at hpending
      · cases hpending
      · rename_i hy
        exact hy (by simpa only [if_neg hy] using hx')
    rw [attemptsOf_addAttempt, if_neg hne, append_nil]
    exact hset.untried x hx hpending
  · rw [addAttempt_rows] at hb
    rcases mem_append.mp hb with hb | hb
    · exact hset.owned b hb
    · rw [mem_singleton.mp hb]
      refine ⟨row.process now, ?_, hid⟩
      rw [addAttempt_events, setEvent_rows]
      exact mem_map.mpr ⟨row, hrow, by rw [if_pos hid]⟩

theorem settlementOf_not_pending {f : Flight} {event : WorkerEvent} {settlement : Settlement}
    (h : settlementOf f event = some settlement) : settlement.status ≠ .pending := by
  cases event with
  | alertRaised exception message =>
    obtain ⟨-, rfl⟩ : _ ∧ _ = settlement := by simpa [settlementOf] using h
    intro hpending
    cases hpending
  | alertDisposed settled outcome =>
    obtain ⟨-, rfl⟩ : _ ∧ _ = settlement := by simpa [settlementOf] using h
    intro hpending
    cases settled <;> cases hpending
  | quiet =>
    obtain ⟨-, rfl⟩ : _ ∧ _ = settlement := by simpa [settlementOf] using h
    intro hpending
    cases hpending
  | sank sink =>
    obtain ⟨-, rfl⟩ : _ ∧ _ = settlement := by simpa [settlementOf] using h
    rcases sinkOutcome_cases sink with ⟨-, h⟩ | ⟨-, h | h | h⟩ <;> simp [sinkSettlement, h]
  | raised exception message =>
    obtain ⟨-, rfl⟩ : _ ∧ _ = settlement := by simpa [settlementOf] using h
    intro hpending
    cases hpending
  | started => cases h
  | abandoned => cases h

theorem touched_recover (s : Store) (now : Instant) :
    Touched s (recoverIncompleteAttempts s now).2 where
  attempts := by
    refine ⟨_, recover_attempts, fun a => ⟨closeAttempt_eventId _ now a, ?_⟩⟩
    unfold closeAttempt
    split <;> rfl
  events := by
    refine ⟨_, [], recover_events.trans (append_nil _).symm, fun r => ?_⟩
    unfold recoverRow
    split
    · refine ⟨rfl, rfl, fun hp => ?_⟩
      simp only [EventRow.recover, recoveryStatus] at hp
      split at hp <;> cases hp
    · exact ⟨rfl, rfl, id⟩

theorem touched_enqueue {draft : NotificationDraft} {accept : Bool} {b : EnqueueBatch}
    (h : enqueue sha256 s draft now accept = .ok (b, s')) : Touched s s' := by
  rcases enqueue_ok h with ⟨-, -, rfl⟩ | ⟨-, -, hattempts, new, hrows, -⟩
  · exact .refl _
  · refine ⟨⟨id, by rw [hattempts, map_id], fun _ => ⟨rfl, rfl⟩⟩, id, new, ?_,
      fun _ => ⟨rfl, rfl, id⟩⟩
    rw [hrows, map_id]

theorem touched_cancel {logicalEventId reason : String} {n : Nat}
    (h : cancel sha256 s logicalEventId reason now = .ok (n, s')) : Touched s s' := by
  obtain ⟨t, ht, hattempts, hrows⟩ := cancel_ok h
  let g : EventRow → EventRow := fun r =>
    if r.cancellable logicalEventId then r.cancel reason now else r
  have hg : ∀ r, (g r).id = r.id ∧ (g r).expiresAt = r.expiresAt ∧
      ((g r).status = .pending → r.status = .pending) := by
    intro r
    dsimp only [g]
    split
    · exact ⟨rfl, rfl, nofun⟩
    · exact ⟨rfl, rfl, id⟩
  refine ⟨⟨id, by rw [hattempts, map_id], fun _ => ⟨rfl, rfl⟩⟩, ?_⟩
  rcases (raiseFence_ok ht).2 with rfl | hfence
  · exact ⟨g, [], by rw [hrows, append_nil], hg⟩
  · exact ⟨g, _, by rw [hrows, hfence, map_append], hg⟩

theorem touched_settle {attemptId : Nat} {settlement : Settlement}
    (hstatus : settlement.status ≠ .pending) (h : settle s attemptId settlement now = .ok s') :
    Touched s s' := by
  obtain ⟨-, a, -, rfl⟩ := settle_ok h
  exact ⟨(Touched.setAttempt attemptId (AttemptRow.settle_key settlement now) fun _ =>
      ⟨rfl, rfl⟩).attempts,
    (Touched.setEvent a.eventId (EventRow.settle_key settlement now) fun _ =>
      ⟨rfl, fun hp => absurd hp hstatus⟩).events⟩

/-- What an action does to the tables: a delivery may begin an attempt; all else touches them. -/
theorem act_touched (o : Outbox) (a : Action) : Touched o.store (act sha256 o a).store ∨
    ∃ eventId now isTask row attempt, a = .deliver eventId now isTask ∧
      Begun o.store (act sha256 o a).store row eventId maxDeliveryAttempts now attempt := by
  cases a with
  | enqueue draft now accept stopsAfter =>
    left
    show Touched _ (o.enqueueDraft sha256 draft now accept stopsAfter).store
    unfold Outbox.enqueueDraft
    split
    · exact .refl _
    · rename_i h
      rw [scheduleAll_store]
      exact touched_enqueue h
  | cancel logicalEventId reason now =>
    left
    show Touched _ (o.cancelEvent sha256 logicalEventId reason now).store
    unfold Outbox.cancelEvent
    split
    · exact .refl _
    · rename_i h
      exact touched_cancel h
  | deliver eventId now isTask =>
    show Touched _ (o.deliver eventId now isTask).store ∨ ∃ _ _ _ _ _, _ ∧
      Begun _ (o.deliver eventId now isTask).store _ _ _ _ _
    unfold Outbox.deliver Outbox.beginFlight
    have hdequeue : (o.dequeue eventId isTask).store = o.store := rfl
    split
    · exact .inl (.refl _)
    · rename_i h
      rw [hdequeue] at h
      left
      rcases beginAttempt_ok h with ⟨-, rfl⟩ | ⟨_, -, -, -, -, rfl⟩ | ⟨_, _, ha, -⟩
      · exact .refl _
      · exact .setEvent eventId _ fun _ => ⟨rfl, nofun⟩
      · cases ha
    · rename_i h
      rw [hdequeue] at h
      rcases beginAttempt_ok h with ⟨ha, -⟩ | ⟨_, -, -, -, ha, -⟩ | ⟨row, attempt, -, hbegun⟩
      · cases ha
      · cases ha
      · exact .inr ⟨eventId, now, isTask, row, attempt, rfl, hbegun⟩
  | work attemptId event =>
    left
    show Touched _ (o.workOn attemptId event).store
    unfold Outbox.workOn
    split
    · rename_i f _
      unfold Outbox.work
      split
      · exact .refl _
      · unfold Outbox.startTransport
        split
        · exact .setAttempt _ _ fun _ => ⟨rfl, rfl⟩
        · exact .refl _
      · split
        · rename_i settlement hsettlement
          unfold Outbox.settleFlight
          split
          · exact .refl _
          · rename_i store h
            have hdone : Touched o.store store :=
              touched_settle (settlementOf_not_pending hsettlement) h
            dsimp only
            split
            · exact hdone
            · exact hdone
        · exact .refl _
    · exact .refl _
  | recoverNotificationTasks now stopsAfter =>
    left
    show Touched _ ((o.recovered now).scheduleAll _ stopsAfter).store
    rw [scheduleAll_store]
    exact touched_recover o.store now
  | recoverBeforeConsuming now => exact .inl (touched_recover o.store now)
  | stop => exact .inl (.refl _)

theorem counted_act (hs : Counted o.store) (a : Action) : Counted (act sha256 o a).store := by
  rcases act_touched o a with h | ⟨_, _, _, _, _, -, hbegun⟩
  · exact hs.touch h
  · exact hs.begun hbegun

theorem counted_empty : Counted Store.empty where
  numbered := fun _ => rfl
  untried := by
    intro r hr
    cases hr
  owned := by
    intro a ha
    cases ha

theorem counted_run {evs : List (Action × Unit)}
    (h : Run (actStep sha256) anyStep Outbox.empty evs o) : Counted o.store := by
  refine h.invariant (I := fun o => Counted o.store) counted_empty ?_
  intro o a hs _
  exact counted_act hs a

/-! ## The row that is taken -/

/-- The tables after an expired row was refused. -/
abbrev Store.expireRow (s : Store) (eventId : Nat) (now : Instant) : Store :=
  s.setEvent eventId (EventRow.expire now) (EventRow.expire_key now)

theorem due_startable (hs : Counted s) (hr : r ∈ s.events.rows) (hdue : s.due r = true) :
    r.Startable ∧ (s.attemptsOf r.id).length < maxDeliveryAttempts := by
  simp only [Store.due, Bool.and_eq_true, Bool.or_eq_true, decide_eq_true_eq,
    Option.isNone_iff_eq_none] at hdue
  obtain ⟨hcancelled, hpending | ⟨⟨hfailed, -⟩, hcount⟩⟩ := hdue
  · rw [hs.untried r hr hpending]
    exact ⟨⟨hcancelled, .inl hpending⟩, by decide⟩
  · exact ⟨⟨hcancelled, .inr hfailed⟩, hcount⟩

theorem beginAttempt_due (hs : Counted s) (hr : r ∈ s.events.rows) (hdue : s.due r = true)
    (now : Instant) : beginAttempt s r.id maxDeliveryAttempts now =
      if r.expired now then .ok (none, s.expireRow r.id now)
      else .ok (some ⟨(s.newAttempt r.id now).id, r.id, (s.newAttempt r.id now).attemptNo,
        r.channel,
          r.payload⟩,
        (s.setEvent r.id (EventRow.process now)
          (EventRow.process_key now)).addAttempt r.id now) := by
  obtain ⟨⟨hcancelled, hstatus⟩, hcount⟩ := due_startable hs hr hdue
  have hopen : ¬(r.status = .delivered ∨ r.status = .processing ∨ r.status = .uncertain) := by
    rcases hstatus with h | h <;> simp [h]
  have hroom : ¬maxDeliveryAttempts < s.previousAttemptNo r.id + 1 := by
    rw [hs.previous]
    omega
  unfold beginAttempt
  rw [if_neg (by decide), event?_of_mem hr]
  dsimp only
  rw [hcancelled, if_neg (by simp), if_neg hopen, if_neg hroom]

theorem due_expireRow (hs : Counted s) (hr : r ∈ s.events.rows) (hdue : s.due r = true) :
    (s.expireRow r.id now).due (r.expire now) = decide (r.status = .failed) := by
  have hattempts : (s.expireRow r.id now).attempts = s.attempts := rfl
  obtain ⟨⟨hcancelled, hpending | hfailed⟩, -⟩ := due_startable hs hr hdue
  · have hnone := hs.untried r hr hpending
    simp only [Store.due, Store.latestAttempt, EventRow.expire, attemptsOf_setEvent, hnone,
      hpending]
    simp
  · simp only [Store.due, hcancelled, hfailed] at hdue
    simp only [Store.due, EventRow.expire, hcancelled, hfailed, Store.latestAttempt,
      attemptsOf_setEvent] at hdue ⊢
    simpa using hdue

theorem dueEventIds_expireRow (hs : Counted s) (hr : r ∈ s.events.rows) (hdue : s.due r = true)
    (hfailed : r.status = .failed) (limit : Nat) :
    dueEventIds (s.expireRow r.id now) limit = dueEventIds s limit := by
  let g : EventRow → EventRow := fun x => if x.id = r.id then x.expire now else x
  have hid : ∀ x, (g x).id = x.id ∧ (g x).createdAt = x.createdAt := by
    intro x
    dsimp only [g]
    split <;> exact ⟨rfl, rfl⟩
  have hsame : ∀ x ∈ s.events.rows, (s.expireRow r.id now).due (g x) = s.due x := by
    intro x hx
    by_cases hxr : x.id = r.id
    · obtain rfl := eventRow_eq_of_id hx hr hxr
      dsimp only [g]
      rw [if_pos rfl, due_expireRow hs hr hdue, hdue, hfailed]
      rfl
    · dsimp only [g]
      rw [if_neg hxr]
      rfl
  have hfilter : (s.expireRow r.id now).events.rows.filter (s.expireRow r.id now).due =
      (s.events.rows.filter s.due).map g := by
    rw [setEvent_rows, filter_map]
    exact congrArg (List.map g) (filter_congr hsame)
  unfold dueEventIds
  rw [hfilter, ← map_insertionSort _ _ g _ fun a _ b _ => by
    rw [(hid a).1, (hid a).2, (hid b).1, (hid b).2], ← map_take, map_map]
  exact map_congr_left fun x _ => (hid x).1

theorem mem_dueEventIds {eventId limit : Nat} (h : eventId ∈ dueEventIds s limit) :
    ∃ r ∈ s.events.rows, r.id = eventId ∧ s.due r = true := by
  obtain ⟨r, hr, rfl⟩ := mem_map.mp h
  obtain ⟨hin, hdue⟩ := mem_filter.mp ((mem_insertionSort _).mp (mem_of_mem_take hr))
  exact ⟨r, hin, rfl, hdue⟩

/-! ## Rows that never had an attempt -/

/-- The row was refused at `now` before it had an attempt. -/
structure Lapsed (s : Store) (eventId : Nat) (now : Instant) : Prop where
  refused : ∃ r ∈ s.events.rows, r.id = eventId ∧ r.expired now = true ∧ r.status ≠ .pending
  untried : s.attemptsOf eventId = []

/-- A delivery, if the action is one, looks at a clock that is not behind `now`. -/
def Action.deliversFrom (now : Instant) : Action → Prop
  | .deliver _ later _ => now ≤ later
  | _ => True

theorem expired_later {later : Instant} (hle : now ≤ later) (h : r.expired now = true) :
    r.expired later = true := by
  unfold EventRow.expired at h ⊢
  split at h
  · simp only [decide_eq_true_eq] at h ⊢
    exact h.trans hle
  · cases h

theorem Lapsed.touch {eventId : Nat} (hl : Lapsed s eventId now) (h : Touched s s') :
    Lapsed s' eventId now := by
  obtain ⟨r, hr, hid, hexpired, hstatus⟩ := hl.refused
  obtain ⟨g, new, hrows, hg⟩ := h.events
  obtain ⟨f, -, hof⟩ := h.attemptsOf
  constructor
  · refine ⟨g r, ?_, (hg r).1.trans hid, ?_, fun hp => hstatus ((hg r).2.2 hp)⟩
    · rw [hrows]
      exact mem_append_left _ (mem_map_of_mem hr)
    · rwa [EventRow.expired, (hg r).2.1]
  · rw [hof, hl.untried, map_nil]

theorem Lapsed.begun {eventId otherId maxAttempts : Nat} {row : EventRow} {a : Attempt}
    {later : Instant} (hl : Lapsed s eventId now)
    (h : Begun s s' row otherId maxAttempts later a) (hle : now ≤ later) :
    Lapsed s' eventId now := by
  obtain ⟨r, hr, hid, hexpired, hstatus⟩ := hl.refused
  have hne : eventId ≠ otherId := by
    rintro rfl
    obtain ⟨hrow, hrowid⟩ := event?_mem h.found
    obtain rfl := eventRow_eq_of_id hrow hr (hrowid.trans hid.symm)
    have hlive := h.unexpired
    rw [expired_later hle hexpired] at hlive
    cases hlive
  have hother : r.id ≠ otherId := by
    rw [hid]
    exact hne
  rw [h.store]
  constructor
  · refine ⟨r, ?_, hid, hexpired, hstatus⟩
    rw [addAttempt_events, setEvent_rows]
    exact mem_map.mpr ⟨r, hr, if_neg hother⟩
  · rw [attemptsOf_addAttempt, attemptsOf_setEvent, if_neg hne, hl.untried, append_nil]

theorem Lapsed.not_due {eventId : Nat} (hl : Lapsed s eventId now) (limit : Nat) :
    eventId ∉ dueEventIds s limit := by
  intro hin
  obtain ⟨x, hx, hxid, hdue⟩ := mem_dueEventIds hin
  obtain ⟨r, hr, hid, -, hstatus⟩ := hl.refused
  obtain rfl := eventRow_eq_of_id hx hr (hxid.trans hid.symm)
  simp [Store.due, Store.latestAttempt, hstatus, hid, hl.untried] at hdue

theorem Lapsed.run {eventId : Nat} {evs : List (Action × Unit)} (hl : Lapsed o.store eventId now)
    (h : Run (actStep sha256) (fun _ a => a.deliversFrom now) o evs o') :
    Lapsed o'.store eventId now := by
  refine h.invariant (I := fun o => Lapsed o.store eventId now) hl ?_
  intro o a ho hfrom
  rcases act_touched o a with htouched | ⟨_, _, _, _, _, rfl, hbegun⟩
  · exact ho.touch htouched
  · exact ho.begun hbegun hfrom

theorem lapsed_expireRow (hs : Counted s) (hr : r ∈ s.events.rows) (hpending : r.status = .pending)
    (hexpired : r.expired now = true) : Lapsed (s.expireRow r.id now) r.id now where
  refused := by
    refine ⟨r.expire now, ?_, rfl, hexpired, nofun⟩
    rw [setEvent_rows]
    exact mem_map.mpr ⟨r, hr, if_pos rfl⟩
  untried := by
    rw [attemptsOf_setEvent]
    exact hs.untried r hr hpending

/-! ## What becomes of a due row -/

/-- What `begin_attempt` makes of a row the scan returned. -/
structure Delivered (sha256 : String → String) (s : Store) (now : Instant) (r : EventRow) :
    Prop where
  starts : r.expired now = false →
    ∃ a s', beginAttempt s r.id maxDeliveryAttempts now = .ok (some a, s')
  drops : r.expired now = true → r.status = .pending →
    ∃ s', beginAttempt s r.id maxDeliveryAttempts now = .ok (none, s') ∧
      ∀ refused evs later, refused.store = s' →
        Run (actStep sha256) (fun _ a => a.deliversFrom now) refused evs later →
        ∀ limit, r.id ∉ dueEventIds later.store limit
  blocks : r.expired now = true → r.status = .failed →
    ∃ s', beginAttempt s r.id maxDeliveryAttempts now = .ok (none, s') ∧
      ∀ limit, dueEventIds s' limit = dueEventIds s limit

/-- **Due scan and begin.** In every run a due row that has not expired has an attempt begun. One
that expired before its first attempt is refused, and no run after that makes it due again, as long
as no delivery looks at an earlier clock. One that expired between two attempts is refused and stays
due: the next scan returns what this one returned. -/
theorem due_row_delivered {evs : List (Action × Unit)}
    (h : Run (actStep sha256) anyStep Outbox.empty evs o) (hr : r ∈ o.store.events.rows)
    (hdue : o.store.due r = true) (now : Instant) : Delivered sha256 o.store now r := by
  have hs := counted_run h
  have hbegin := beginAttempt_due hs hr hdue now
  refine ⟨fun hlive => ?_, fun hexpired hpending => ?_, fun hexpired hfailed => ?_⟩
  · rw [hlive, if_neg (by decide)] at hbegin
    exact ⟨_, _, hbegin⟩
  · rw [hexpired, if_pos rfl] at hbegin
    refine ⟨_, hbegin, fun refused evs later hrefused hrun limit => ?_⟩
    have hlapsed : Lapsed refused.store r.id now := by
      rw [hrefused]
      exact lapsed_expireRow hs hr hpending hexpired
    exact (hlapsed.run hrun).not_due limit
  · rw [hexpired, if_pos rfl] at hbegin
    exact ⟨_, hbegin, dueEventIds_expireRow hs hr hdue hfailed⟩

/-! ## Rounds of the consumer -/

/-- `consume_pending_notifications`, up to the attempt it begins. -/
def Outbox.consume (o : Outbox) (now : Instant) : Outbox :=
  (dueEventIds (o.recovered now).store 1).foldl (fun o eventId => o.deliver eventId now false)
    (o.recovered now)

/-- The head of the scan is a row to be tried again, and no attempt is open. -/
structure Stuck (s : Store) (r : EventRow) : Prop where
  counted : Counted s
  mem : r ∈ s.events.rows
  head : dueEventIds s 1 = [r.id]
  failed : r.status = .failed
  idle : s.incompleteAttempts = []

theorem Stuck.due (h : Stuck s r) : s.due r = true := by
  have hhead : r.id ∈ dueEventIds s 1 := by simp [h.head]
  obtain ⟨x, hx, hid, hdue⟩ := mem_dueEventIds hhead
  rwa [eventRow_eq_of_id hx h.mem hid] at hdue

theorem Stuck.expireRow (h : Stuck s r) (now : Instant) :
    Stuck (s.expireRow r.id now) (r.expire now) := by
  refine ⟨h.counted.touch (.setEvent r.id _ fun _ => ⟨rfl, nofun⟩), ?_,
    (dueEventIds_expireRow h.counted h.mem h.due h.failed 1).trans h.head, rfl, ?_⟩
  · rw [setEvent_rows]
    exact mem_map.mpr ⟨r, h.mem, if_pos rfl⟩
  · rw [eq_nil_iff_forall_not_mem]
    intro a ha
    obtain ⟨hin, hopen, x, hx, hid, hstatus⟩ := mem_incompleteAttempts.mp ha
    rw [setEvent_rows] at hx
    obtain ⟨y, hy, rfl⟩ := mem_map.mp hx
    split at hstatus
    · cases hstatus
    · rename_i hne
      rw [if_neg hne] at hid
      have hold : a ∈ s.incompleteAttempts :=
        mem_incompleteAttempts.mpr ⟨hin, hopen, y, hy, hid, hstatus⟩
      simp [h.idle] at hold

theorem Stuck.consume (h : Stuck o.store r) (hexpired : r.expired now = true) :
    o.consume now = { o with store := o.store.expireRow r.id now } := by
  have hidle : o.recovered now = o := by
    have hrecover : (recoverIncompleteAttempts o.store now).2 = o.store := by
      simp only [recoverIncompleteAttempts, h.idle]
      rfl
    rw [Outbox.recovered, hrecover]
  have hbegin := beginAttempt_due h.counted h.mem h.due now
  rw [hexpired, if_pos rfl] at hbegin
  rw [Outbox.consume, hidle, h.head]
  show o.beginFlight r.id now false = _
  rw [Outbox.beginFlight, hbegin]

/-- **One expired row stops the queue.** When the row at the head failed before and has expired, no
number of rounds delivers anything: it stays at the head, and nothing is begun for the rows behind
it. -/
theorem expired_head_starves {evs : List (Action × Unit)}
    (h : Run (actStep sha256) anyStep Outbox.empty evs o) (hr : r ∈ o.store.events.rows)
    (hhead : dueEventIds o.store 1 = [r.id]) (hfailed : r.status = .failed)
    (hidle : o.store.incompleteAttempts = []) (times : List Instant)
    (hexpired : ∀ now ∈ times, r.expired now = true) :
    dueEventIds (times.foldl Outbox.consume o).store 1 = [r.id] ∧
      (times.foldl Outbox.consume o).store.attempts = o.store.attempts ∧
      (times.foldl Outbox.consume o).flights = o.flights := by
  have hstuck : Stuck o.store r := ⟨counted_run h, hr, hhead, hfailed, hidle⟩
  clear h hr hhead hfailed hidle
  induction times generalizing o r with
  | nil => exact ⟨hstuck.head, rfl, rfl⟩
  | cons now times ih =>
    rw [foldl_cons, hstuck.consume (hexpired now mem_cons_self)]
    exact ih (o := { o with store := o.store.expireRow r.id now }) (r := r.expire now)
      (fun later hin => hexpired later (mem_cons_of_mem _ hin)) (hstuck.expireRow now)

/-- A setup that may be sent for five seconds meets a busy sink. An opening without an end follows
it, and a second setup that may be sent for as long. -/
def expiredRetry : List Action :=
  [.enqueue { setupDraft with expiresAt := some 5000000 } 0 false none, .deliver 1 1000000 true,
    .work 1 .started, .work 1 (.sank busy), .enqueue openingDraft 2000000 false none,
    .enqueue { setupDraft with logicalEventId := "late", expiresAt := some 5000000 } 3000000 false
      none]

def openedBehind : Outbox := (play (actStep id) Outbox.empty expiredRetry).2

theorem due_row_delivered_each :
    ∃ r₁ r₂ r₃ : EventRow, dueEventIds openedBehind.store 3 = [r₁.id, r₂.id, r₃.id] ∧
      (∃ s', beginAttempt openedBehind.store r₁.id maxDeliveryAttempts 6000000 = .ok (none, s') ∧
        ∀ limit, dueEventIds s' limit = dueEventIds openedBehind.store limit) ∧
      (∃ a s', beginAttempt openedBehind.store r₂.id maxDeliveryAttempts 6000000 =
        .ok (some a, s')) ∧
      ∃ s', beginAttempt openedBehind.store r₃.id maxDeliveryAttempts 6000000 = .ok (none, s') ∧
        ∀ refused evs later, refused.store = s' →
          Run (actStep id) (fun _ a => a.deliversFrom 6000000) refused evs later →
          ∀ limit, r₃.id ∉ dueEventIds later.store limit := by
  have hrows : ∃ r₁ ∈ openedBehind.store.events.rows, ∃ r₂ ∈ openedBehind.store.events.rows,
      ∃ r₃ ∈ openedBehind.store.events.rows,
        dueEventIds openedBehind.store 3 = [r₁.id, r₂.id, r₃.id] ∧
        (∀ r ∈ [r₁, r₂, r₃], openedBehind.store.due r = true) ∧
        (r₁.expired 6000000 = true ∧ r₁.status = .failed) ∧ r₂.expired 6000000 = false ∧
        r₃.expired 6000000 = true ∧ r₃.status = .pending := by
    decide +kernel
  obtain ⟨r₁, h₁, r₂, h₂, r₃, h₃, hscan, hdue, hfirst, hlive, hlast⟩ := hrows
  have hrun := run_play (actStep id) expiredRetry Outbox.empty
  exact ⟨r₁, r₂, r₃, hscan,
    (due_row_delivered hrun h₁ (hdue r₁ (by simp)) 6000000).blocks hfirst.1 hfirst.2,
    (due_row_delivered hrun h₂ (hdue r₂ (by simp)) 6000000).starts hlive,
    (due_row_delivered hrun h₃ (hdue r₃ (by simp)) 6000000).drops hlast.1 hlast.2⟩

theorem expired_head_starves_opening :
    let o := [6000000, 7000000].foldl Outbox.consume openedBehind
    dueEventIds o.store 1 = [1] ∧ o.store.attempts = openedBehind.store.attempts ∧
      o.flights = openedBehind.flights := by
  have hrow : ∃ r ∈ openedBehind.store.events.rows, r.id = 1 ∧ r.status = .failed ∧
      dueEventIds openedBehind.store 1 = [r.id] ∧ openedBehind.store.incompleteAttempts = [] ∧
      ∀ now ∈ [6000000, 7000000], r.expired now = true := by
    decide +kernel
  obtain ⟨r, hr, hid, hfailed, hhead, hidle, hexpired⟩ := hrow
  have hstarved := expired_head_starves (run_play (actStep id) expiredRetry _) hr hhead hfailed
    hidle _ hexpired
  rw [hid] at hstarved
  exact hstarved

end SpxSpark.Notifications
