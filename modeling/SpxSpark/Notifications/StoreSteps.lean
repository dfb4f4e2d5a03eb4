import SpxSpark.Notifications.Store

/-!
# StoreSteps — what each operation of the outbox does to its rows

One lemma an operation, with everything it can do: which rows it appends, which it rewrites and into
what.
-/

namespace SpxSpark.Notifications

open Lib List

variable {sha256 : String → String} {s s' : Store}

/-! ## Rows by their id -/

theorem eventRow_eq_of_id {t : EventTable} {a b : EventRow} (ha : a ∈ t.rows) (hb : b ∈ t.rows)
    (h : a.id = b.id) : a = b := by
  refine Table.eq_of_clash ha hb ?_ ?_
  · intro x y
    show (x.1 == y.1 || x.2 == y.2) = (y.1 == x.1 || y.2 == x.2)
    rw [BEq.comm (a := x.1), BEq.comm (a := x.2)]
  · show (a.id == b.id || a.idempotencyKey == b.idempotencyKey) = true
    simp [h]

variable {a : AttemptRow}

theorem attemptRow_eq_of_id {t : AttemptTable} {b : AttemptRow} (ha : a ∈ t.rows)
    (hb : b ∈ t.rows) (h : a.id = b.id) : a = b := by
  refine Table.eq_of_clash ha hb ?_ ?_
  · intro x y
    exact BEq.comm
  · show (a.id == b.id) = true
    simp [h]

variable {eventId : Nat}

theorem event?_mem {r : EventRow} (h : s.event? eventId = some r) :
    r ∈ s.events.rows ∧ r.id = eventId := by
  have hid := find?_some h
  exact ⟨mem_of_find?_eq_some h, by simpa using hid⟩

theorem event?_of_mem {r : EventRow} (hr : r ∈ s.events.rows) : s.event? r.id = some r := by
  cases h : s.event? r.id with
  | none =>
    have hno := find?_eq_none.mp h r hr
    simp at hno
  | some r' =>
    obtain ⟨hr', hid⟩ := event?_mem h
    rw [eventRow_eq_of_id hr' hr hid]

variable {attemptId : Nat}

theorem attempt?_mem (h : s.attempt? attemptId = some a) :
    a ∈ s.attempts.rows ∧ a.id = attemptId := by
  have hid := find?_some h
  exact ⟨mem_of_find?_eq_some h, by simpa using hid⟩

theorem attempt?_of_mem (ha : a ∈ s.attempts.rows) : s.attempt? a.id = some a := by
  cases h : s.attempt? a.id with
  | none =>
    have hno := find?_eq_none.mp h a ha
    simp at hno
  | some a' =>
    obtain ⟨ha', hid⟩ := attempt?_mem h
    rw [attemptRow_eq_of_id ha' ha hid]

theorem mem_attemptsOf : a ∈ s.attemptsOf eventId ↔ a ∈ s.attempts.rows ∧ a.eventId = eventId := by
  simp [Store.attemptsOf]

@[simp]
theorem setEvent_attempts {f : EventRow → EventRow} {hk} :
    (s.setEvent eventId f hk).attempts = s.attempts := rfl

@[simp]
theorem setAttempt_events {f : AttemptRow → AttemptRow} {hk} :
    (s.setAttempt attemptId f hk).events = s.events := rfl

variable {now : Instant}

@[simp]
theorem addAttempt_events : (s.addAttempt eventId now).events = s.events := rfl

theorem setEvent_rows {f : EventRow → EventRow}
    (hk : ∀ r, eventSchema.key (f r) = eventSchema.key r) : (s.setEvent eventId f hk).events.rows =
      s.events.rows.map fun r => if r.id = eventId then f r else r := by
  show s.events.rows.map (Table.rewrite _ f) = _
  refine map_congr_left fun r _ => ?_
  simp [Table.rewrite]

theorem setAttempt_rows {f : AttemptRow → AttemptRow}
    (hk : ∀ r, attemptSchema.key (f r) = attemptSchema.key r) :
    (s.setAttempt attemptId f hk).attempts.rows =
      s.attempts.rows.map fun a => if a.id = attemptId then f a else a := by
  show s.attempts.rows.map (Table.rewrite _ f) = _
  refine map_congr_left fun a _ => ?_
  simp [Table.rewrite]

@[simp]
theorem addAttempt_rows :
    (s.addAttempt eventId now).attempts.rows = s.attempts.rows ++ [s.newAttempt eventId now] := rfl

/-! ## Enqueueing and cancelling -/

theorem insertEvent_ok {t t' : EventTable} {r : EventRow} (h : insertEvent t r = .ok t') :
    t'.rows = t.rows ++ [r] := by
  unfold insertEvent at h
  split at h
  · rename_i hins
    cases h
    exact (Table.insert_ok hins).1
  · cases h

/-- A row as `enqueue` inserts it. -/
structure Drafted (draft : NotificationDraft) (r : EventRow) : Prop where
  logicalEventId : r.logicalEventId = draft.logicalEventId
  channel : r.channel ∈ draft.channels
  status : r.status = .pending
  cancelledAt : r.cancelledAt = none

/-- What some turns of the loop over the channels did. -/
structure EnqueuedOnto (draft : NotificationDraft) (acc acc' : Enqueued) : Prop where
  rows : ∃ new, acc'.events.rows = acc.events.rows ++ new ∧
    ∀ r ∈ new, Drafted draft r ∧ r.id ∈ acc'.eventIds
  ids : ∀ i ∈ acc.eventIds, i ∈ acc'.eventIds

variable {draft : NotificationDraft}

theorem EnqueuedOnto.refl (acc : Enqueued) : EnqueuedOnto draft acc acc :=
  ⟨⟨[], by simp, by simp⟩, fun _ h => h⟩

theorem EnqueuedOnto.trans {a b c : Enqueued} (hab : EnqueuedOnto draft a b)
    (hbc : EnqueuedOnto draft b c) : EnqueuedOnto draft a c := by
  obtain ⟨new, hrows, hnew⟩ := hab.rows
  obtain ⟨new', hrows', hnew'⟩ := hbc.rows
  refine ⟨⟨new ++ new', ?_, ?_⟩, fun i hi => hbc.ids i (hab.ids i hi)⟩
  · rw [hrows', hrows, append_assoc]
  · intro r hr
    rcases mem_append.mp hr with hr | hr
    · exact ⟨(hnew r hr).1, hbc.ids _ (hnew r hr).2⟩
    · exact hnew' r hr

variable {accept : Bool}

theorem enqueueChannel_ok {acc acc' : Enqueued} {channel : String}
    (hchannel : channel ∈ draft.channels)
    (h : enqueueChannel sha256 draft now accept acc channel = .ok acc') :
    EnqueuedOnto draft acc acc' := by
  unfold enqueueChannel at h
  split at h
  · split at h
    · cases h
    · cases h
      exact ⟨⟨[], by simp, by simp⟩, fun i hi => mem_append_left _ hi⟩
  · -- the channel has no row yet
    dsimp only at h
    split at h
    · cases h
    · rename_i events hins
      cases h
      refine ⟨⟨[pendingRow sha256 acc.events draft now channel], insertEvent_ok hins, ?_⟩,
        fun i hi => mem_append_left _ hi⟩
      intro r hr
      rw [mem_singleton.mp hr]
      exact ⟨⟨rfl, hchannel, rfl, rfl⟩, mem_append_right _ (mem_singleton.mpr rfl)⟩

theorem enqueueChannels_ok {channels : List String} {acc acc' : Enqueued}
    (hin : ∀ c ∈ channels, c ∈ draft.channels)
    (h : channels.foldlM (enqueueChannel sha256 draft now accept) acc = .ok acc') :
    EnqueuedOnto draft acc acc' := by
  induction channels generalizing acc with
  | nil =>
    cases h
    exact EnqueuedOnto.refl _
  | cons channel channels ih =>
    rw [foldlM_cons] at h
    cases hc : enqueueChannel sha256 draft now accept acc channel with
    | error e =>
      rw [hc] at h
      cases h
    | ok mid =>
      rw [hc] at h
      have hfirst := enqueueChannel_ok (hin channel mem_cons_self) hc
      exact hfirst.trans (ih (fun c hc => hin c (mem_cons_of_mem _ hc)) h)

/-- A committed enqueue: nothing once the event is cancelled, and otherwise the pending rows of the
channels that had none. -/
theorem enqueue_ok {b : EnqueueBatch} (h : enqueue sha256 s draft now accept = .ok (b, s')) :
    (fenced s.events draft.logicalEventId = true ∧ b = ⟨[], 0, 0, true⟩ ∧ s' = s) ∨
      (fenced s.events draft.logicalEventId = false ∧ b.cancelled = false ∧
        s'.attempts = s.attempts ∧ ∃ new, s'.events.rows = s.events.rows ++ new ∧
          ∀ r ∈ new, Drafted draft r ∧ r.id ∈ b.eventIds) := by
  unfold enqueue at h
  split at h
  · cases h
  · split at h
    · cases h
    · split at h
      · rename_i hfence
        cases h
        exact .inl ⟨hfence, rfl, rfl⟩
      · rename_i hfence
        split at h
        · cases h
        · rename_i done hdone
          cases h
          have honto := enqueueChannels_ok (fun _ hc => hc) hdone
          exact .inr ⟨by simpa using hfence, rfl, rfl, honto.rows⟩

theorem enqueue_fenced (hfence : fenced s.events draft.logicalEventId = true) :
    (answer s .batch (enqueue sha256 s draft now accept)).2 = s := by
  cases h : enqueue sha256 s draft now accept with
  | error e => rfl
  | ok out =>
    obtain ⟨b, s'⟩ := out
    rcases enqueue_ok h with ⟨-, -, hs⟩ | ⟨hopen, -⟩
    · exact hs
    · rw [hfence] at hopen
      cases hopen

theorem raiseFence_ok {t t' : EventTable} {logicalEventId reason : String}
    (h : raiseFence sha256 t logicalEventId reason now = .ok t') : fenced t' logicalEventId = true ∧
      (t' = t ∨ t'.rows = t.rows ++ [fenceRow sha256 t logicalEventId reason now]) := by
  unfold raiseFence at h
  split at h
  · rename_i hfence
    cases h
    exact ⟨hfence, .inl rfl⟩
  · have hrows := insertEvent_ok h
    refine ⟨?_, .inr hrows⟩
    unfold fenced
    rw [hrows, any_append]
    simp [EventRow.ofChannel, fenceRow]

theorem cancel_ok {logicalEventId reason : String} {n : Nat}
    (h : cancel sha256 s logicalEventId reason now = .ok (n, s')) :
    ∃ t, raiseFence sha256 s.events logicalEventId reason now = .ok t ∧
      s'.attempts = s.attempts ∧
      s'.events.rows = t.rows.map fun r =>
        if r.cancellable logicalEventId then r.cancel reason now else r := by
  unfold cancel at h
  split at h
  · cases h
  · rename_i t ht
    cases h
    exact ⟨t, ht, rfl, rfl⟩

/-! ## Attempts -/

/-- What `begin_attempt` asks of a row before it looks at times and counts. -/
def EventRow.Startable (r : EventRow) : Prop :=
  r.cancelledAt = none ∧ (r.status = .pending ∨ r.status = .failed)

/-- A begun attempt: its row was startable and is in processing now. -/
structure Begun (s s' : Store) (row : EventRow) (eventId maxAttempts : Nat) (now : Instant)
    (a : Attempt) : Prop where
  found : s.event? eventId = some row
  startable : row.Startable
  unexpired : row.expired now = false
  room : s.previousAttemptNo eventId + 1 ≤ maxAttempts
  attempt : a = ⟨(s.newAttempt eventId now).id, eventId, (s.newAttempt eventId now).attemptNo,
    row.channel, row.payload⟩
  store : s' = (s.setEvent eventId (EventRow.process now) (EventRow.process_key now)).addAttempt
    eventId now

/-- `begin_attempt` starts an attempt, marks the row expired, or does nothing. -/
theorem beginAttempt_ok {maxAttempts : Nat} {o : Option Attempt}
    (h : beginAttempt s eventId maxAttempts now = .ok (o, s')) : (o = none ∧ s' = s) ∨
      (∃ row, s.event? eventId = some row ∧ row.Startable ∧ row.expired now = true ∧ o = none ∧
        s' = s.setEvent eventId (EventRow.expire now) (EventRow.expire_key now)) ∨
      ∃ row a, o = some a ∧ Begun s s' row eventId maxAttempts now a := by
  unfold beginAttempt at h
  split at h
  · cases h
  · split at h
    · cases h
      exact .inl ⟨rfl, rfl⟩
    · rename_i row hrow
      split at h
      · cases h
        exact .inl ⟨rfl, rfl⟩
      · rename_i hcancelled
        split at h
        · cases h
          exact .inl ⟨rfl, rfl⟩
        · rename_i hstatus
          have hstartable : row.Startable := by
            refine ⟨by simpa using hcancelled, ?_⟩
            cases hs : row.status with
            | pending => exact .inl rfl
            | failed => exact .inr rfl
            | processing => exact absurd (.inr (.inl hs)) hstatus
            | delivered => exact absurd (.inl hs) hstatus
            | uncertain => exact absurd (.inr (.inr hs)) hstatus
          split at h
          · rename_i hexpired
            cases h
            exact .inr (.inl ⟨row, hrow, hstartable, hexpired, rfl, rfl⟩)
          · rename_i hexpired
            split at h
            · cases h
              exact .inl ⟨rfl, rfl⟩
            · rename_i hroom
              cases h
              exact .inr (.inr ⟨row, _, rfl,
                ⟨hrow, hstartable, by simpa using hexpired, by omega, rfl, rfl⟩⟩)

theorem settle_ok {settlement : Settlement} (h : settle s attemptId settlement now = .ok s') :
    settlement.ok = decide (settlement.status = .delivered) ∧
      ∃ a, s.attempt? attemptId = some a ∧
        s' = (s.setAttempt attemptId (AttemptRow.settle settlement now)
          (AttemptRow.settle_key settlement now)).setEvent a.eventId
            (EventRow.settle settlement now) (EventRow.settle_key settlement now) := by
  unfold settle at h
  split at h
  · cases h
  · rename_i hok
    split at h
    · cases h
    · rename_i a ha
      cases h
      exact ⟨by simpa using hok, a, ha, rfl⟩

/-! ## Recovery -/

/-- The last attempt of a list that is for the row: the one whose verdict the row is left with. -/
def lastFor (l : List AttemptRow) (eventId : Nat) : Option AttemptRow :=
  (l.filter fun a => decide (a.eventId = eventId)).getLast?

variable {l : List AttemptRow}

theorem lastFor_cons : lastFor (a :: l) eventId =
      (lastFor l eventId).or (if a.eventId = eventId then some a else none) := by
  unfold lastFor
  by_cases ha : a.eventId = eventId
  · rw [filter_cons_of_pos (by simpa using ha), if_pos ha]
    cases l.filter (fun a => decide (a.eventId = eventId)) with
    | nil => rfl
    | cons b bs => simp [getLast?_cons]
  · rw [filter_cons_of_neg (by simpa using ha), if_neg ha, Option.or_none]

theorem lastFor_mem (h : lastFor l eventId = some a) : a ∈ l ∧ a.eventId = eventId := by
  have hmem := mem_of_getLast? h
  simpa using hmem

theorem lastFor_none : lastFor l eventId = none ↔ ∀ a ∈ l, a.eventId ≠ eventId := by
  simp [lastFor]

/-- The event row recovery leaves where `r` stood. -/
def recoverRow (l : List AttemptRow) (now : Instant) (r : EventRow) : EventRow :=
  match lastFor l r.id with
  | some a => r.recover a.attempted now
  | none => r

/-- The attempt row recovery leaves where `a` stood. -/
def closeAttempt (l : List AttemptRow) (now : Instant) (a : AttemptRow) : AttemptRow :=
  if a ∈ l then a.recover (recoveryOutcome a.attempted) now else a

theorem recoverAttempts_events (now : Instant) (l : List AttemptRow) (s : Store) :
    (l.foldl (recoverAttempt now) s).events.rows = s.events.rows.map (recoverRow l now) := by
  induction l generalizing s with
  | nil =>
    show s.events.rows = s.events.rows.map id
    rw [map_id]
  | cons a l ih =>
    have hrows : (recoverAttempt now s a).events.rows = s.events.rows.map fun r =>
        if r.id = a.eventId then r.recover a.attempted now else r :=
      setEvent_rows (EventRow.recover_key a.attempted now)
    rw [foldl_cons, ih, hrows, map_map]
    refine map_congr_left fun r _ => ?_
    show recoverRow l now (if r.id = a.eventId then r.recover a.attempted now else r) =
      recoverRow (a :: l) now r
    by_cases ha : r.id = a.eventId
    · -- a later verdict on the row overwrites this one
      rw [if_pos ha]
      unfold recoverRow
      rw [lastFor_cons, if_pos ha.symm]
      have hid : (r.recover a.attempted now).id = r.id := rfl
      rw [hid]
      cases lastFor l r.id with
      | none => rfl
      | some b => rfl
    · rw [if_neg ha]
      unfold recoverRow
      rw [lastFor_cons, if_neg (Ne.symm ha), Option.or_none]

theorem recoverAttempts_attempts (now : Instant) (hnodup : (l.map AttemptRow.id).Nodup)
    (hin : ∀ a ∈ l, a ∈ s.attempts.rows) :
    (l.foldl (recoverAttempt now) s).attempts.rows = s.attempts.rows.map (closeAttempt l now) := by
  induction l generalizing s with
  | nil =>
    show s.attempts.rows = s.attempts.rows.map _
    refine (map_id _).symm.trans (map_congr_left fun a _ => ?_)
    simp [closeAttempt]
  | cons a l ih =>
    rw [map_cons, nodup_cons] at hnodup
    have hrows : (recoverAttempt now s a).attempts.rows = s.attempts.rows.map fun b =>
        if b.id = a.id then b.recover (recoveryOutcome a.attempted) now else b :=
      setAttempt_rows (AttemptRow.recover_key (recoveryOutcome a.attempted) now)
    have hne : ∀ b ∈ l, b.id ≠ a.id := by
      intro b hb hid
      exact hnodup.1 (mem_map.mpr ⟨b, hb, hid⟩)
    have hkept : ∀ b ∈ l, b ∈ (recoverAttempt now s a).attempts.rows := by
      intro b hb
      rw [hrows]
      refine mem_map.mpr ⟨b, hin b (mem_cons_of_mem _ hb), ?_⟩
      rw [if_neg (hne b hb)]
    rw [foldl_cons, ih hnodup.2 hkept, hrows, map_map]
    refine map_congr_left fun b hb => ?_
    show closeAttempt l now (if b.id = a.id then _ else b) = closeAttempt (a :: l) now b
    by_cases hba : b.id = a.id
    · obtain rfl := attemptRow_eq_of_id hb (hin a mem_cons_self) hba
      rw [if_pos rfl]
      unfold closeAttempt
      rw [if_neg, if_pos mem_cons_self]
      intro hmem
      exact hne _ hmem rfl
    · rw [if_neg hba]
      unfold closeAttempt
      have hmem : b ∈ a :: l ↔ b ∈ l := by
        rw [mem_cons]
        refine or_iff_right ?_
        rintro rfl
        exact hba rfl
      simp only [hmem]

theorem mem_incompleteAttempts :
    a ∈ s.incompleteAttempts ↔ a ∈ s.attempts.rows ∧ a.finishedAt = none ∧
      ∃ r ∈ s.events.rows, r.id = a.eventId ∧ r.status = .processing := by
  simp [Store.incompleteAttempts]

theorem recover_events : (recoverIncompleteAttempts s now).2.events.rows =
      s.events.rows.map (recoverRow s.incompleteAttempts now) :=
  recoverAttempts_events now _ s

theorem attemptIds_nodup (t : AttemptTable) : (t.rows.map AttemptRow.id).Nodup := by
  rw [List.Nodup, pairwise_map]
  refine t.distinct.imp ?_
  intro a b hab
  have hne : (a.id == b.id) = false := hab
  simpa using hne

theorem recover_attempts : (recoverIncompleteAttempts s now).2.attempts.rows =
      s.attempts.rows.map (closeAttempt s.incompleteAttempts now) := by
  refine recoverAttempts_attempts now ?_ ?_
  · exact (attemptIds_nodup s.attempts).sublist (filter_sublist.map _)
  · intro a ha
    exact (mem_incompleteAttempts.mp ha).1

theorem closeAttempt_eventId (l : List AttemptRow) (now : Instant) (a : AttemptRow) :
    (closeAttempt l now a).eventId = a.eventId := by
  unfold closeAttempt
  split <;> rfl

theorem attemptsOf_recover (eventId : Nat) :
    (recoverIncompleteAttempts s now).2.attemptsOf eventId =
      (s.attemptsOf eventId).map (closeAttempt s.incompleteAttempts now) := by
  unfold Store.attemptsOf
  rw [recover_attempts, filter_map]
  congr 1
  refine filter_congr fun a _ => ?_
  show decide ((closeAttempt s.incompleteAttempts now a).eventId = eventId) = _
  rw [closeAttempt_eventId]

end SpxSpark.Notifications
