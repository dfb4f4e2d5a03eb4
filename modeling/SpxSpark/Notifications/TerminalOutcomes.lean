import SpxSpark.Notifications.Delivery

/-!
# TerminalOutcomes — how the attempts of a row follow one another

While no worker goes on with an attempt that recovery has closed, and no delivery is called on a row
that was given up, a row's attempts are a chain: numbered from 1, each spent before the next one
begins, the row's status being the verdict of the last.
-/

namespace SpxSpark.Notifications

open Lib List

variable {sha256 : String → String} {o o' : Outbox} {s s' : Store}

/-! ## Chains of attempts -/

/-- The status a finished attempt leaves its row with. -/
def verdict (ok : Bool) (outcome : String) : NotificationStatus :=
  if ok then .delivered
  else if outcome = "transport_outcome_uncertain" then .uncertain
  else .failed

/-- An attempt that another may follow. -/
structure Spent (a : AttemptRow) : Prop where
  finished : a.finishedAt.isSome = true
  failed : a.ok = false
  explicit : a.attempted = true → a.outcome = "retryable_failure"

/-- The outcomes of an attempt whose transport was started. -/
def Reported (attempted ok : Bool) (outcome : String) : Prop :=
  attempted = true → ok = true ∨ outcome = "retryable_failure" ∨ outcome = "permanent_failure"
    ∨ outcome = "transport_outcome_uncertain"

/-- The row's status is what its last attempt says. -/
inductive Agrees (r : EventRow) : Option AttemptRow → Prop
  | untried (h : r.status = .pending ∨ r.status = .failed) : Agrees r none
  | inFlight {a : AttemptRow} (h : a.finishedAt = none) (hok : a.ok = false)
      (houtcome : a.outcome = "processing") (hstatus : r.status = .processing) : Agrees r (some a)
  | settled {a : AttemptRow} (h : a.finishedAt.isSome = true)
      (hreported : Reported a.attempted a.ok a.outcome)
      (hstatus : r.status = verdict a.ok a.outcome) : Agrees r (some a)

/-- The attempts of a row are numbered, few, and spent but for the last. -/
structure Chained (attempts : List AttemptRow) (r : EventRow) : Prop where
  numbered : attempts.map AttemptRow.attemptNo = List.range' 1 attempts.length
  bounded : attempts.length ≤ maxDeliveryAttempts
  spent : ∀ a ∈ attempts.dropLast, Spent a
  agrees : Agrees r attempts.getLast?

/-- A worker that has not started its transport has an attempt that says so. -/
def FlightSound (s : Store) (f : Flight) : Prop :=
  f.stage = .begun → ∀ a ∈ s.attempts.rows, a.id = f.attempt.attemptId → a.attempted = false

/-- Every row agrees with its attempts, and every attempt has a row. -/
structure SoundStore (s : Store) : Prop where
  rows : ∀ r ∈ s.events.rows, Chained (s.attemptsOf r.id) r
  owned : ∀ a ∈ s.attempts.rows, ∃ r ∈ s.events.rows, r.id = a.eventId

/-- The store is sound, and so is every worker's flight. -/
structure Sound (o : Outbox) : Prop where
  store : SoundStore o.store
  flights : ∀ f ∈ o.flights, FlightSound o.store f

variable {r : EventRow}

theorem chained_nil (h : r.status = .pending ∨ r.status = .failed) : Chained [] r where
  numbered := rfl
  bounded := Nat.zero_le _
  spent := by simp
  agrees := .untried h

variable {l : List AttemptRow} {r' : EventRow} {a : AttemptRow}

theorem Chained.snoc (h : Chained l r) (hlast : ∀ b, l.getLast? = some b → Spent b)
    (hno : a.attemptNo = l.length + 1) (hroom : l.length + 1 ≤ maxDeliveryAttempts)
    (hagrees : Agrees r' (some a)) : Chained (l ++ [a]) r' where
  numbered := by
    rw [map_append, h.numbered, length_append, map_singleton, hno,
      length_singleton, range'_concat]
    simp [Nat.add_comm]
  bounded := by
    rw [length_append]
    exact hroom
  spent := by
    intro b hb
    rw [dropLast_concat] at hb
    rcases eq_nil_or_concat l with rfl | ⟨init, last, rfl⟩
    · simp at hb
    · rw [concat_eq_append] at hb h hlast
      rcases mem_append.mp hb with hb | hb
      · exact h.spent b (by rw [dropLast_concat]; exact hb)
      · rw [mem_singleton.mp hb]
        exact hlast last (by simp)
  agrees := by
    rw [getLast?_concat]
    exact hagrees

theorem Chained.settleLast {a' : AttemptRow} (h : Chained (l ++ [a]) r)
    (hno : a'.attemptNo = a.attemptNo) (hagrees : Agrees r' (some a')) :
    Chained (l ++ [a']) r' where
  numbered := by
    have hn := h.numbered
    rw [map_append, length_append] at hn ⊢
    rw [map_singleton] at hn ⊢
    rw [hno]
    exact hn
  bounded := by
    have hb := h.bounded
    rw [length_append] at hb ⊢
    exact hb
  spent := by
    have hs := h.spent
    rw [dropLast_concat] at hs ⊢
    exact hs
  agrees := by
    rw [getLast?_concat]
    exact hagrees

theorem Chained.open_last (h : Chained l r) (ha : a ∈ l) (hopen : a.finishedAt = none) :
    (∃ init, l = init ++ [a]) ∧ r.status = .processing ∧ a.outcome = "processing" := by
  rcases eq_nil_or_concat l with rfl | ⟨init, last, rfl⟩
  · cases ha
  · rw [concat_eq_append] at ha h ⊢
    have hspent := h.spent
    have hagrees := h.agrees
    rw [dropLast_concat] at hspent
    rw [getLast?_concat] at hagrees
    rcases mem_append.mp ha with ha | ha
    · have hfinished := (hspent a ha).finished
      rw [hopen] at hfinished
      cases hfinished
    · obtain rfl := mem_singleton.mp ha
      cases hagrees with
      | inFlight _ _ houtcome hstatus => exact ⟨⟨init, rfl⟩, hstatus, houtcome⟩
      | settled hfinished _ _ =>
        rw [hopen] at hfinished
        cases hfinished

/-! ## Attempts of one row -/

variable {attemptId : Nat}

theorem attemptsOf_setAttempt {f : AttemptRow → AttemptRow}
    (hk : ∀ r, attemptSchema.key (f r) = attemptSchema.key r)
    (hevent : ∀ a, (f a).eventId = a.eventId) (eventId : Nat) :
    (s.setAttempt attemptId f hk).attemptsOf eventId =
      (s.attemptsOf eventId).map fun a => if a.id = attemptId then f a else a := by
  unfold Store.attemptsOf
  rw [setAttempt_rows, filter_map]
  congr 1
  refine filter_congr fun a _ => ?_
  show decide ((if a.id = attemptId then f a else a).eventId = eventId) = _
  split
  · rw [hevent]
  · rfl

variable {eventId : Nat}

theorem attemptsOf_setAttempt_other {f : AttemptRow → AttemptRow} (ha : a ∈ s.attempts.rows)
    (hk : ∀ r, attemptSchema.key (f r) = attemptSchema.key r)
    (hevent : ∀ a, (f a).eventId = a.eventId) (hne : eventId ≠ a.eventId) :
    (s.setAttempt a.id f hk).attemptsOf eventId = s.attemptsOf eventId := by
  rw [attemptsOf_setAttempt hk hevent]
  refine (map_congr_left fun b hb => ?_).trans (map_id _)
  have hb' := mem_attemptsOf.mp hb
  rw [if_neg]
  · rfl
  · intro hid
    obtain rfl := attemptRow_eq_of_id hb'.1 ha hid
    exact hne hb'.2.symm

theorem attemptsOf_nodup (eventId : Nat) : ((s.attemptsOf eventId).map AttemptRow.id).Nodup :=
  (attemptIds_nodup s.attempts).sublist (filter_sublist.map _)

theorem attemptsOf_setAttempt_last {init : List AttemptRow} {f : AttemptRow → AttemptRow}
    (hlast : s.attemptsOf a.eventId = init ++ [a])
    (hk : ∀ r, attemptSchema.key (f r) = attemptSchema.key r)
    (hevent : ∀ a, (f a).eventId = a.eventId) :
    (s.setAttempt a.id f hk).attemptsOf a.eventId = init ++ [f a] := by
  have hnodup := attemptsOf_nodup (s := s) a.eventId
  rw [hlast, map_append, nodup_append] at hnodup
  rw [attemptsOf_setAttempt hk hevent, hlast, map_append, map_singleton, if_pos rfl]
  congr 1
  refine (map_congr_left fun b hb => ?_).trans (map_id _)
  rw [if_neg]
  · rfl
  · intro hid
    exact hnodup.2.2 b.id (mem_map_of_mem hb) a.id (by simp) hid

@[simp]
theorem attemptsOf_setEvent {f : EventRow → EventRow} {hk} {e : Nat} :
    (s.setEvent eventId f hk).attemptsOf e = s.attemptsOf e := rfl

variable {now : Instant}

theorem attemptsOf_addAttempt {e : Nat} :
    (s.addAttempt eventId now).attemptsOf e =
      s.attemptsOf e ++ if e = eventId then [s.newAttempt eventId now] else [] := by
  unfold Store.attemptsOf
  rw [addAttempt_rows, filter_append]
  congr 1
  by_cases h : e = eventId
  · simp [Store.newAttempt, h]
  · simp [Store.newAttempt, h, Ne.symm h]

theorem foldr_max_range' (n : Nat) : (List.range' 1 n).foldr max 0 = n := by
  induction n with
  | zero => rfl
  | succ n ih =>
    have hmax : ∀ (l : List Nat) (m : Nat), (l ++ [m]).foldr max 0 = max (l.foldr max 0) m := by
      intro l m
      induction l with
      | nil => simp
      | cons k l ihl =>
        show max k ((l ++ [m]).foldr max 0) = max (max k (l.foldr max 0)) m
        rw [ihl, max_assoc]
    rw [range'_concat, hmax, ih]
    omega

theorem Chained.previous (h : Chained (s.attemptsOf eventId) r) :
    s.previousAttemptNo eventId = (s.attemptsOf eventId).length := by
  unfold Store.previousAttemptNo
  rw [h.numbered, foldr_max_range']

/-! ## What has to hold of a call -/

/-- The row was given up: its last attempt failed for good, or it expired before its transport. -/
def Store.givenUp (s : Store) (r : EventRow) : Bool :=
  (match lastFor s.attempts.rows r.id with
    | some a => decide (a.outcome = "permanent_failure")
    | none => false) || decide (r.lastError = some "expired_before_transport")

/-- A delivery is called on a row that was given up only where `begin_attempt` has another ground to
refuse it, and a worker goes on only while its attempt is still open. -/
def Orderly (o : Outbox) : Action → Prop
  | .deliver eventId now _ =>
    ∀ r ∈ o.store.event? eventId, o.store.givenUp r = true →
      r.cancelledAt.isSome = true ∨ r.expired now = true
        ∨ maxDeliveryAttempts ≤ (o.store.attemptsOf eventId).length
  | .work attemptId event =>
    event ≠ .abandoned → ∀ f ∈ o.flights, f.attempt.attemptId = attemptId →
      ∀ a ∈ o.store.attempt? attemptId, a.finishedAt = none
  | _ => True

/-! ## What each transaction does to the chains -/

theorem appended_fresh {t t' : EventTable} {new : List EventRow} (h : t'.rows = t.rows ++ new) :
    ∀ a ∈ t.rows, ∀ b ∈ new, b.id ≠ a.id := by
  intro a ha b hb hid
  have hdistinct := t'.distinct
  rw [h, pairwise_append] at hdistinct
  have hclash := hdistinct.2.2 a ha b hb
  simp [hid] at hclash

theorem SoundStore.append (hs : SoundStore s) {new : List EventRow}
    (hattempts : s'.attempts = s.attempts) (hrows : s'.events.rows = s.events.rows ++ new)
    (hnew : ∀ r ∈ new, r.status = .pending ∨ r.status = .failed) : SoundStore s' := by
  have hof : ∀ e, s'.attemptsOf e = s.attemptsOf e := by
    intro e
    unfold Store.attemptsOf
    rw [hattempts]
  constructor
  · intro r hr
    rw [hrows] at hr
    rw [hof]
    rcases mem_append.mp hr with hr | hr
    · exact hs.rows r hr
    · have hnone : s.attemptsOf r.id = [] := by
        refine filter_eq_nil_iff.mpr fun a ha hid => ?_
        obtain ⟨r', hr', hid'⟩ := hs.owned a ha
        exact appended_fresh hrows r' hr' r hr (hid'.trans (of_decide_eq_true hid)).symm
      rw [hnone]
      exact chained_nil (hnew r hr)
  · intro a ha
    rw [hattempts] at ha
    obtain ⟨r, hr, hid⟩ := hs.owned a ha
    exact ⟨r, hrows ▸ mem_append_left _ hr, hid⟩

theorem SoundStore.rewrite (hs : SoundStore s) {f : EventRow → EventRow}
    (hattempts : s'.attempts = s.attempts) (hrows : s'.events.rows = s.events.rows.map f)
    (hid : ∀ r, (f r).id = r.id)
    (hchain : ∀ r ∈ s.events.rows, Chained (s.attemptsOf r.id) (f r)) : SoundStore s' := by
  constructor
  · intro x hx
    rw [hrows] at hx
    obtain ⟨r, hr, rfl⟩ := mem_map.mp hx
    unfold Store.attemptsOf
    rw [hattempts, hid]
    exact hchain r hr
  · intro a ha
    rw [hattempts] at ha
    obtain ⟨r, hr, hra⟩ := hs.owned a ha
    exact ⟨f r, hrows ▸ mem_map_of_mem hr, (hid r).trans hra⟩

theorem Chained.fail (h : Chained l r) (hwaits : r.status = .pending ∨ r.status = .failed)
    (hfailed : r'.status = .failed) : Chained l r' := by
  refine ⟨h.numbered, h.bounded, h.spent, ?_⟩
  have hagrees := h.agrees
  cases hlast : l.getLast? with
  | none => exact .untried (.inr hfailed)
  | some a =>
    rw [hlast] at hagrees
    cases hagrees with
    | inFlight _ _ _ hstatus =>
      rw [hstatus] at hwaits
      rcases hwaits with hw | hw <;> cases hw
    | settled hfinished hreported hstatus =>
      refine .settled hfinished hreported (hfailed.trans ?_)
      -- a pending row has no settled attempt: the verdicts are delivered, uncertain and failed
      rw [hstatus] at hwaits
      rcases hwaits with hw | hw
      · unfold verdict at hw
        split at hw
        · cases hw
        · split at hw <;> cases hw
      · exact hw.symm

variable {draft : NotificationDraft}

theorem SoundStore.enqueue {accept : Bool} {b : EnqueueBatch} (hs : SoundStore s)
    (h : Notifications.enqueue sha256 s draft now accept = .ok (b, s')) : SoundStore s' := by
  rcases enqueue_ok h with ⟨-, -, rfl⟩ | ⟨-, -, hattempts, new, hrows, hnew⟩
  · exact hs
  · exact hs.append hattempts hrows fun r hr => .inl (hnew r hr).1.status

variable {logicalEventId reason : String}

theorem SoundStore.cancel {n : Nat} (hs : SoundStore s)
    (h : Notifications.cancel sha256 s logicalEventId reason now = .ok (n, s')) :
    SoundStore s' := by
  obtain ⟨t, ht, hattempts, hrows⟩ := cancel_ok h
  have hraised : SoundStore ⟨t, s.attempts⟩ := by
    rcases (raiseFence_ok ht).2 with rfl | hfrom
    · exact hs
    · refine hs.append rfl hfrom fun r hr => ?_
      rw [mem_singleton.mp hr]
      exact .inr rfl
  refine hraised.rewrite hattempts hrows (fun r => ?_) (fun r hr => ?_)
  · split <;> rfl
  · have hchain := hraised.rows r hr
    split
    · rename_i hcancellable
      have hwaits : r.status = .pending ∨ r.status = .failed := by
        simp only [EventRow.cancellable, Bool.and_eq_true, Bool.or_eq_true, decide_eq_true_eq]
          at hcancellable
        exact hcancellable.2
      exact hchain.fail hwaits rfl
    · exact hchain

theorem SoundStore.begun {row : EventRow} {a : Attempt} (hs : SoundStore s)
    (hbegun : Begun s s' row eventId maxDeliveryAttempts now a)
    (hspent : ∀ b, (s.attemptsOf eventId).getLast? = some b → Spent b) : SoundStore s' := by
  obtain ⟨hrow, hid⟩ := event?_mem hbegun.found
  have hchain := hs.rows row hrow
  rw [hid] at hchain
  have hprevious := hchain.previous
  have hroom := hbegun.room
  rw [hprevious] at hroom
  rw [hbegun.store]
  constructor
  · intro x hx
    rw [addAttempt_events, setEvent_rows] at hx
    obtain ⟨r, hr, rfl⟩ := mem_map.mp hx
    rw [attemptsOf_addAttempt, attemptsOf_setEvent]
    by_cases hrid : r.id = eventId
    · rw [if_pos hrid]
      have hxid : (r.process now).id = eventId := hrid
      rw [hxid, if_pos rfl]
      refine hchain.snoc hspent ?_ hroom (.inFlight rfl rfl rfl rfl)
      show s.previousAttemptNo eventId + 1 = _
      rw [hprevious]
    · rw [if_neg hrid, if_neg hrid, append_nil]
      exact hs.rows r hr
  · intro b hb
    rw [addAttempt_rows] at hb
    rcases mem_append.mp hb with hb | hb
    · obtain ⟨r, hr, hrid⟩ := hs.owned b hb
      refine ⟨_, (setEvent_rows (EventRow.process_key now) ▸ mem_map_of_mem hr :
        _ ∈ ((s.setEvent eventId (EventRow.process now) (EventRow.process_key now)).addAttempt
          eventId now).events.rows), ?_⟩
      split
      · exact hrid
      · exact hrid
    · rw [mem_singleton.mp hb]
      refine ⟨_, (setEvent_rows (EventRow.process_key now) ▸ mem_map_of_mem hrow :
        _ ∈ ((s.setEvent eventId (EventRow.process now) (EventRow.process_key now)).addAttempt
          eventId now).events.rows), ?_⟩
      split
      · exact hid
      · exact hid

theorem SoundStore.touch {f : AttemptRow → AttemptRow} {g : EventRow → EventRow}
    (hs : SoundStore s) (ha : a ∈ s.attempts.rows) (hopen : a.finishedAt = none)
    (hf : ∀ r, attemptSchema.key (f r) = attemptSchema.key r)
    (hg : ∀ r, eventSchema.key (g r) = eventSchema.key r)
    (hevent : ∀ b, (f b).eventId = b.eventId) (hno : (f a).attemptNo = a.attemptNo)
    (hgid : ∀ r, (g r).id = r.id)
    (hagrees : ∀ r ∈ s.events.rows, r.id = a.eventId → Agrees (g r) (some (f a))) :
    SoundStore ((s.setAttempt a.id f hf).setEvent a.eventId g hg) := by
  constructor
  · intro x hx
    rw [setEvent_rows, setAttempt_events] at hx
    obtain ⟨r, hr, rfl⟩ := mem_map.mp hx
    rw [attemptsOf_setEvent]
    have hchain := hs.rows r hr
    by_cases hrid : r.id = a.eventId
    · rw [if_pos hrid]
      rw [hrid] at hchain
      obtain ⟨⟨init, hinit⟩, -, -⟩ := hchain.open_last (mem_attemptsOf.mpr ⟨ha, rfl⟩) hopen
      rw [hinit] at hchain
      rw [hgid, hrid, attemptsOf_setAttempt_last hinit hf hevent]
      exact hchain.settleLast hno (hagrees r hr hrid)
    · rw [if_neg hrid, attemptsOf_setAttempt_other ha hf hevent hrid]
      exact hchain
  · intro b hb
    rw [setEvent_attempts, setAttempt_rows] at hb
    obtain ⟨c, hc, rfl⟩ := mem_map.mp hb
    obtain ⟨r, hr, hrid⟩ := hs.owned c hc
    refine ⟨_, (setEvent_rows hg ▸ mem_map_of_mem hr :
      _ ∈ ((s.setAttempt a.id f hf).setEvent a.eventId g hg).events.rows), ?_⟩
    have hcid : (if c.id = a.id then f c else c).eventId = c.eventId := by
      split
      · exact hevent c
      · rfl
    rw [hcid]
    split
    · exact (hgid r).trans hrid
    · exact hrid

/-! ## Recovery -/

theorem incompleteAttempts_of_row (hr : r ∈ s.events.rows) :
    (s.incompleteAttempts.filter fun a => decide (a.eventId = r.id)) =
      (s.attemptsOf r.id).filter fun a => a.finishedAt.isNone &&
        decide (r.status = .processing) := by
  unfold Store.incompleteAttempts Store.attemptsOf
  rw [filter_filter, filter_filter]
  refine filter_congr fun a _ => ?_
  by_cases hid : a.eventId = r.id
  · have hany : (s.events.rows.any fun x =>
        decide (x.id = a.eventId) && decide (x.status = .processing)) =
          decide (r.status = .processing) := by
      rw [Bool.eq_iff_iff, any_eq_true, decide_eq_true_eq]
      constructor
      · rintro ⟨x, hx, hxr⟩
        rw [Bool.and_eq_true, decide_eq_true_eq, decide_eq_true_eq] at hxr
        obtain rfl := eventRow_eq_of_id hx hr (hxr.1.trans hid)
        exact hxr.2
      · intro hstatus
        exact ⟨r, hr, by simp [hid, hstatus]⟩
    rw [hany, hid]
    simp [Bool.and_comm]
  · simp [hid]

theorem Chained.closed (h : Chained l r) (hstatus : r.status ≠ .processing) (ha : a ∈ l) :
    a.finishedAt ≠ none := by
  intro hopen
  exact hstatus (h.open_last ha hopen).2.1

theorem SoundStore.recover_row (hs : SoundStore s) (now : Instant) (hr : r ∈ s.events.rows) :
    (∃ init a, s.attemptsOf r.id = init ++ [a] ∧ a.finishedAt = none ∧
        lastFor s.incompleteAttempts r.id = some a ∧
        (recoverIncompleteAttempts s now).2.attemptsOf r.id =
          init ++ [a.recover (recoveryOutcome a.attempted) now]) ∨
      (r.status ≠ .processing ∧ lastFor s.incompleteAttempts r.id = none ∧
        (recoverIncompleteAttempts s now).2.attemptsOf r.id = s.attemptsOf r.id) := by
  have hchain := hs.rows r hr
  have hfilter := incompleteAttempts_of_row hr
  by_cases hopen : ∃ a ∈ s.attemptsOf r.id, a.finishedAt = none
  · obtain ⟨a, ha, hnone⟩ := hopen
    obtain ⟨⟨init, hinit⟩, hstatus, -⟩ := hchain.open_last ha hnone
    have hinc : (s.incompleteAttempts.filter fun b => decide (b.eventId = r.id)) = [a] := by
      rw [hfilter, hinit, filter_append]
      have hspent := hchain.spent
      rw [hinit, dropLast_concat] at hspent
      rw [filter_eq_nil_iff.mpr]
      · simp [hnone, hstatus]
      · intro b hb hkept
        have hfinished := (hspent b hb).finished
        simp [Option.isNone_iff_eq_none.mp (Bool.and_eq_true_iff.mp hkept).1] at hfinished
    refine .inl ⟨init, a, hinit, hnone, by rw [lastFor, hinc]; rfl, ?_⟩
    rw [attemptsOf_recover, hinit, map_append, map_singleton]
    have hnodup := attemptsOf_nodup (s := s) r.id
    rw [hinit, map_append, nodup_append] at hnodup
    have hmem : a ∈ s.incompleteAttempts := by
      have hin : a ∈ s.incompleteAttempts.filter fun b => decide (b.eventId = r.id) := by
        rw [hinc]
        simp
      exact (mem_filter.mp hin).1
    congr 1
    · refine (map_congr_left fun b hb => ?_).trans (map_id _)
      unfold closeAttempt
      rw [if_neg]
      · rfl
      · intro hbin
        have hspent := hchain.spent
        rw [hinit, dropLast_concat] at hspent
        have hfinished := (hspent b hb).finished
        rw [(mem_incompleteAttempts.mp hbin).2.1] at hfinished
        cases hfinished
    · unfold closeAttempt
      rw [if_pos hmem]
  · push Not at hopen
    have hinc : (s.incompleteAttempts.filter fun b => decide (b.eventId = r.id)) = [] := by
      rw [hfilter, filter_eq_nil_iff]
      intro b hb hkept
      exact hopen b hb (Option.isNone_iff_eq_none.mp (Bool.and_eq_true_iff.mp hkept).1)
    refine .inr ⟨?_, by rw [lastFor, hinc]; rfl, ?_⟩
    · intro hstatus
      have hagrees := hchain.agrees
      cases hlast : (s.attemptsOf r.id).getLast? with
      | none =>
        rw [hlast] at hagrees
        cases hagrees with
        | untried hw =>
          rw [hstatus] at hw
          rcases hw with hw | hw <;> cases hw
      | some a =>
        rw [hlast] at hagrees
        cases hagrees with
        | inFlight hnone _ _ _ => exact hopen a (mem_of_getLast? hlast) hnone
        | settled _ _ hs' =>
          rw [hstatus] at hs'
          unfold verdict at hs'
          split at hs'
          · cases hs'
          · split at hs' <;> cases hs'
    · rw [attemptsOf_recover]
      refine (map_congr_left fun b hb => ?_).trans (map_id _)
      unfold closeAttempt
      rw [if_neg]
      · rfl
      · intro hbin
        exact hopen b hb (mem_incompleteAttempts.mp hbin).2.1

theorem SoundStore.recover (hs : SoundStore s) :
    SoundStore (recoverIncompleteAttempts s now).2 := by
  constructor
  · intro x hx
    rw [recover_events] at hx
    obtain ⟨r, hr, rfl⟩ := mem_map.mp hx
    have hchain := hs.rows r hr
    have hid : (recoverRow s.incompleteAttempts now r).id = r.id := by
      unfold recoverRow
      split <;> rfl
    rw [hid]
    rcases hs.recover_row now hr with ⟨init, a, hinit, hopen, hlast, hof⟩ |
      ⟨-, hlast, hof⟩
    · rw [hof]
      rw [hinit] at hchain
      have hrow : recoverRow s.incompleteAttempts now r = r.recover a.attempted now := by
        unfold recoverRow
        rw [hlast]
      rw [hrow]
      refine hchain.settleLast rfl (.settled rfl ?_ ?_)
      · intro hstarted
        have hstarted' : a.attempted = true := hstarted
        refine .inr (.inr (.inr ?_))
        show recoveryOutcome a.attempted = _
        rw [hstarted']
        rfl
      · show recoveryStatus a.attempted = verdict false (recoveryOutcome a.attempted)
        cases a.attempted with
        | true => rfl
        | false => rfl
    · rw [hof]
      have hrow : recoverRow s.incompleteAttempts now r = r := by
        unfold recoverRow
        rw [hlast]
      rw [hrow]
      exact hchain
  · intro b hb
    rw [recover_attempts] at hb
    obtain ⟨c, hc, rfl⟩ := mem_map.mp hb
    obtain ⟨r, hr, hrid⟩ := hs.owned c hc
    refine ⟨recoverRow s.incompleteAttempts now r, recover_events ▸ mem_map_of_mem hr, ?_⟩
    rw [closeAttempt_eventId]
    unfold recoverRow
    split <;> exact hrid

/-! ## What a worker settles with -/

/-- A settlement that leaves the row with the verdict of its attempt. -/
structure Truthful (attempted : Bool) (settlement : Settlement) : Prop where
  status : settlement.status = verdict settlement.ok settlement.outcome
  reported : Reported attempted settlement.ok settlement.outcome

theorem sinkOutcome_cases (sink : SinkResult) :
    (sink.ok = true ∧ (sinkOutcome sink).1 = .delivered) ∨
      (sink.ok = false ∧ (sinkOutcome sink = (.failed, "permanent_failure") ∨
        sinkOutcome sink = (.failed, "retryable_failure") ∨
        sinkOutcome sink = (.uncertain, "transport_outcome_uncertain"))) := by
  unfold sinkOutcome
  split
  · rename_i hok
    exact .inl ⟨hok, rfl⟩
  · rename_i hok
    refine .inr ⟨by simpa using hok, ?_⟩
    split
    · exact .inl rfl
    · split
      · exact .inr (.inl rfl)
      · exact .inr (.inr rfl)

theorem truthful_sink {attempted : Bool} (sink : SinkResult) :
    Truthful attempted (sinkSettlement sink) := by
  rcases sinkOutcome_cases sink with ⟨hok, hstatus⟩ | ⟨hok, hout | hout | hout⟩
  · refine ⟨hstatus.trans ?_, fun _ => .inl hok⟩
    show _ = verdict sink.ok _
    rw [hok]
    rfl
  all_goals
    have houtcome : (sinkSettlement sink).outcome = (sinkOutcome sink).2 := rfl
    refine ⟨?_, fun _ => ?_⟩
    · show (sinkOutcome sink).1 = verdict sink.ok (sinkOutcome sink).2
      rw [hok, hout]
      decide
    · rw [houtcome, hout]
      simp

variable {f : Flight}

variable {settlement : Settlement} {e : WorkerEvent}

theorem truthful_settlementOf {attempted : Bool} (hunstarted : f.stage = .begun → attempted = false)
    (h : settlementOf f e = some settlement) : Truthful attempted settlement := by
  cases e with
  | alertRaised exception message =>
    simp only [settlementOf] at h
    split at h
    · rename_i halert
      cases h
      refine ⟨by simp [alertRaised, verdict], fun hstarted => ?_⟩
      rw [hunstarted halert.2] at hstarted
      cases hstarted
    · cases h
  | alertDisposed settled outcome =>
    simp only [settlementOf] at h
    split at h
    · rename_i halert
      cases h
      cases settled with
      | true => exact ⟨by simp [alertSettled, verdict], fun _ => .inl rfl⟩
      | false =>
        refine ⟨by simp [alertUnsettled, verdict], fun hstarted => ?_⟩
        rw [hunstarted halert.2] at hstarted
        cases hstarted
    · cases h
  | quiet =>
    simp only [settlementOf] at h
    split at h
    · cases h
      exact ⟨by simp [quietSuppressed, verdict], fun _ => .inl rfl⟩
    · cases h
  | started => cases h
  | sank sink =>
    simp only [settlementOf] at h
    split at h
    · cases h
      exact truthful_sink sink
    · cases h
  | raised exception message =>
    simp only [settlementOf] at h
    split at h
    · cases h
      exact ⟨by simp [transportRaised, verdict], fun _ => .inr (.inr (.inr rfl))⟩
    · cases h
  | abandoned => cases h

/-! ## Flights -/

/-- No attempt of `s'` has started its transport that had not in `s`. -/
def StartsNothing (s s' : Store) : Prop :=
  ∀ a' ∈ s'.attempts.rows, a'.attempted = true →
    ∃ a ∈ s.attempts.rows, a.id = a'.id ∧ a.attempted = true

theorem startsNothing_of_attempts (h : s'.attempts = s.attempts) : StartsNothing s s' :=
  fun a' ha' hstarted => ⟨a', h ▸ ha', rfl, hstarted⟩

theorem startsNothing_map {f : AttemptRow → AttemptRow}
    (h : s'.attempts.rows = s.attempts.rows.map f) (hid : ∀ a, (f a).id = a.id)
    (hattempted : ∀ a, (f a).attempted = a.attempted) : StartsNothing s s' := by
  intro a' ha' hstarted
  rw [h] at ha'
  obtain ⟨a, ha, rfl⟩ := mem_map.mp ha'
  exact ⟨a, ha, (hid a).symm, (hattempted a).symm.trans hstarted⟩

theorem FlightSound.mono (h : FlightSound s f) (hstart : StartsNothing s s') :
    FlightSound s' f := by
  intro hstage a' ha' hid
  cases hattempted : a'.attempted with
  | false => rfl
  | true =>
    obtain ⟨a, ha, hida, hstarted⟩ := hstart a' ha' hattempted
    rw [h hstage a ha (hida.trans hid)] at hstarted
    cases hstarted

theorem Sound.keep (hs : Sound o) (hstore : SoundStore o'.store)
    (hstart : StartsNothing o.store o'.store) (hflights : ∀ f ∈ o'.flights, f ∈ o.flights) :
    Sound o' :=
  ⟨hstore, fun f hf => (hs.flights f (hflights f hf)).mono hstart⟩

@[simp]
theorem scheduleAll_store (eventIds : List Nat) (stopsAfter : Option Nat) :
    (o.scheduleAll eventIds stopsAfter).store = o.store := by
  cases stopsAfter <;> rfl

theorem scheduleAll_flights {eventIds : List Nat} {stopsAfter : Option Nat}
    (hf : f ∈ (o.scheduleAll eventIds stopsAfter).flights) : f ∈ o.flights := by
  cases stopsAfter with
  | none => exact hf
  | some n => cases hf

theorem landed_flights (hf : f ∈ (o.landed attemptId).flights) : f ∈ o.flights :=
  (mem_filter.mp hf).1

/-! ## One step -/

theorem Sound.schedule (hs : Sound o) (eventIds : List Nat) : Sound (o.schedule eventIds) :=
  ⟨hs.store, hs.flights⟩

theorem verdict_eq_failed {ok : Bool} {outcome : String}
    (h : verdict ok outcome = .pending ∨ verdict ok outcome = .failed) :
    ok = false ∧ outcome ≠ "transport_outcome_uncertain" := by
  unfold verdict at h
  cases ok with
  | true => rcases h with h | h <;> cases h
  | false =>
    refine ⟨rfl, ?_⟩
    rintro rfl
    rcases h with h | h <;> cases h

theorem spent_before {isTask : Bool} {row : EventRow} {a : Attempt} (hs : SoundStore o.store)
    (hok : Orderly o (.deliver eventId now isTask))
    (hbegun : Begun o.store s' row eventId maxDeliveryAttempts now a) :
    ∀ b, (o.store.attemptsOf eventId).getLast? = some b → Spent b := by
  intro b hb
  obtain ⟨hrow, hid⟩ := event?_mem hbegun.found
  have hchain := hs.rows row hrow
  rw [hid] at hchain
  have hroom := hbegun.room
  rw [hchain.previous] at hroom
  have hgiven : o.store.givenUp row = false := by
    cases hg : o.store.givenUp row with
    | false => rfl
    | true =>
      rcases hok row hbegun.found hg with hc | he | hl
      · rw [hbegun.startable.1] at hc
        cases hc
      · rw [hbegun.unexpired] at he
        cases he
      · omega
  have hlast : lastFor o.store.attempts.rows row.id = some b := hid ▸ hb
  have hpermanent : b.outcome ≠ "permanent_failure" := by
    intro hp
    unfold Store.givenUp at hgiven
    rw [hlast] at hgiven
    simp [hp] at hgiven
  have hagrees := hchain.agrees
  rw [hb] at hagrees
  have hwaits := hbegun.startable.2
  cases hagrees with
  | inFlight _ _ _ hstatus =>
    rw [hstatus] at hwaits
    rcases hwaits with hw | hw <;> cases hw
  | settled hfinished hreported hstatus =>
    rw [hstatus] at hwaits
    obtain ⟨hfailed, huncertain⟩ := verdict_eq_failed hwaits
    refine ⟨hfinished, hfailed, fun hstarted => ?_⟩
    rcases hreported hstarted with h | h | h | h
    · rw [hfailed] at h
      cases h
    · exact h
    · exact absurd h hpermanent
    · exact absurd h huncertain

section

variable (hs : Sound o)

include hs

theorem Sound.beginFlight {isTask : Bool} (hok : Orderly o (.deliver eventId now isTask)) :
    Sound (o.beginFlight eventId now isTask) := by
  unfold Outbox.beginFlight
  split
  · exact hs
  · rename_i store hbegin
    rcases beginAttempt_ok hbegin with ⟨-, rfl⟩ | ⟨row, hrow, hstart, -, -, rfl⟩ | ⟨_, _, h, -⟩
    · exact hs
    · obtain ⟨hrow', hid⟩ := event?_mem hrow
      refine hs.keep ?_ (startsNothing_of_attempts rfl) fun f hf => hf
      refine hs.store.rewrite rfl (setEvent_rows (EventRow.expire_key now)) (fun r => ?_)
        (fun r hr' => ?_)
      · split <;> rfl
      · have hchain := hs.store.rows r hr'
        split
        · rename_i hrid
          obtain rfl := eventRow_eq_of_id hr' hrow' (hrid.trans hid.symm)
          exact hchain.fail hstart.2 rfl
        · exact hchain
    · cases h
  · rename_i attempt store hbegin
    rcases beginAttempt_ok hbegin with ⟨h, -⟩ | ⟨_, _, _, -, h, -⟩ | ⟨row, a, ha, hbegun⟩
    · cases h
    · cases h
    · cases ha
      have hrows : store.attempts.rows =
          o.store.attempts.rows ++ [o.store.newAttempt eventId now] := by
        rw [hbegun.store]
        rfl
      have hstart : StartsNothing o.store store := by
        intro b hb hstarted
        rw [hrows] at hb
        rcases mem_append.mp hb with hb | hb
        · exact ⟨b, hb, rfl, hstarted⟩
        · rw [mem_singleton.mp hb] at hstarted
          cases hstarted
      refine ⟨hs.store.begun hbegun (spent_before hs.store hok hbegun), fun f hf => ?_⟩
      rcases mem_append.mp hf with hf | hf
      · exact (hs.flights f hf).mono hstart
      · rw [mem_singleton.mp hf]
        intro _ b hb hid
        have hnew : o.store.newAttempt eventId now ∈ store.attempts.rows := by
          rw [hrows]
          simp
        have hid' : b.id = (o.store.newAttempt eventId now).id := by
          rw [hid, hbegun.attempt]
        obtain rfl := attemptRow_eq_of_id hb hnew hid'
        rfl

theorem Sound.settleFlight (hf : f ∈ o.flights) (h : settlementOf f e = some settlement)
    (hopen : ∀ a ∈ o.store.attempt? f.attempt.attemptId, a.finishedAt = none) :
    Sound (o.settleFlight f settlement) := by
  have hland : Sound (o.landed f.attempt.attemptId) :=
    ⟨hs.store, fun g hg => hs.flights g (landed_flights hg)⟩
  unfold Outbox.settleFlight
  split
  · exact hland
  · rename_i store hsettle
    obtain ⟨-, a, ha, hstore⟩ := settle_ok hsettle
    obtain ⟨hmem, hid⟩ := attempt?_mem ha
    have hflight := hs.flights f hf
    have htruth : Truthful a.attempted settlement :=
      truthful_settlementOf (fun hstage => hflight hstage a hmem hid) h
    have hsound : SoundStore store := by
      rw [hstore, ← hid]
      exact hs.store.touch hmem (hopen a ha) _ _ (fun _ => rfl) rfl (fun _ => rfl)
        fun r _ _ => .settled rfl htruth.reported htruth.status
    have hstart : StartsNothing o.store store := by
      refine startsNothing_map (f := fun b => if b.id = f.attempt.attemptId then
        b.settle settlement f.now else b) ?_ (fun b => ?_) (fun b => ?_)
      · rw [hstore, setEvent_attempts, setAttempt_rows]
      · split <;> rfl
      · split <;> rfl
    have hkept : Sound { o.landed f.attempt.attemptId with store := store } :=
      hland.keep hsound hstart fun g hg => hg
    dsimp only
    split
    · exact hkept.schedule _
    · exact hkept

omit hs in
theorem SoundStore.mark (hs : SoundStore s)
    (hopen : ∀ a ∈ s.attempt? attemptId, a.finishedAt = none) :
    SoundStore (markTransportStarted s attemptId) := by
  cases ha : s.attempt? attemptId with
  | none =>
    -- nothing to mark
    have hsame : (markTransportStarted s attemptId).attempts.rows = s.attempts.rows := by
      rw [markTransportStarted, setAttempt_rows]
      refine (map_congr_left fun b hb => ?_).trans (map_id _)
      have hne := find?_eq_none.mp ha b hb
      rw [if_neg (by simpa using hne)]
      rfl
    have htable : (markTransportStarted s attemptId).attempts = s.attempts := Table.ext hsame
    refine hs.rewrite (f := id) htable (map_id _).symm (fun _ => rfl) fun r hr => ?_
    exact hs.rows r hr
  | some a =>
    obtain ⟨hmem, hid⟩ := attempt?_mem ha
    have hnone := hopen a ha
    have htouch := hs.touch (g := id) hmem hnone AttemptRow.start_key (fun _ => rfl)
      (fun _ => rfl) rfl (fun _ => rfl) fun r hr hrid => by
        have hchain := hs.rows r hr
        have hin := mem_attemptsOf.mpr ⟨hmem, hrid.symm⟩
        obtain ⟨⟨init, hinit⟩, hstatus, houtcome⟩ := hchain.open_last hin hnone
        have hagrees := hchain.agrees
        rw [hinit, getLast?_concat] at hagrees
        cases hagrees with
        | inFlight _ hok _ _ => exact .inFlight hnone hok houtcome hstatus
        | settled hfinished _ _ =>
          rw [hnone] at hfinished
          cases hfinished
    refine htouch.rewrite (f := id) ?_ ?_ (fun _ => rfl) fun r hr => htouch.rows r hr
    · rw [markTransportStarted, setEvent_attempts, hid]
    · rw [setEvent_rows, map_map]
      refine ((map_congr_left fun r _ => ?_).trans (map_id _)).symm
      show id (if r.id = a.eventId then id r else r) = id r
      split <;> rfl

theorem Sound.startTransport
    (hopen : ∀ a ∈ o.store.attempt? f.attempt.attemptId, a.finishedAt = none) :
    Sound (o.startTransport f) := by
  unfold Outbox.startTransport
  split
  · refine ⟨hs.store.mark hopen, fun g' hg' => ?_⟩
    obtain ⟨g, hg, rfl⟩ := mem_map.mp hg'
    intro hstage a ha hid
    by_cases hgf : g.attempt.attemptId = f.attempt.attemptId
    · rw [if_pos hgf] at hstage
      cases hstage
    · -- another worker's attempt is not the one marked
      rw [if_neg hgf] at hstage hid
      rw [markTransportStarted, setAttempt_rows] at ha
      obtain ⟨b, hb, rfl⟩ := mem_map.mp ha
      by_cases hbf : b.id = f.attempt.attemptId
      · rw [if_pos hbf] at hid
        exact absurd (hid.symm.trans hbf) hgf
      · rw [if_neg hbf] at hid ⊢
        exact hs.flights g hg hstage b hb hid
  · exact hs

theorem Sound.work (hf : f ∈ o.flights)
    (hopen : e ≠ .abandoned → ∀ a ∈ o.store.attempt? f.attempt.attemptId, a.finishedAt = none) :
    Sound (o.work f e) := by
  unfold Outbox.work
  split
  · exact ⟨hs.store, fun g hg => hs.flights g (landed_flights hg)⟩
  · exact hs.startTransport (hopen (by simp))
  · rename_i habandoned _
    split
    · rename_i settlement h
      exact hs.settleFlight hf h (hopen habandoned)
    · exact hs

omit hs in
theorem startsNothing_recover : StartsNothing s (recoverIncompleteAttempts s now).2 := by
  refine startsNothing_map recover_attempts (fun a => ?_) (fun a => ?_)
  · unfold closeAttempt
    split <;> rfl
  · unfold closeAttempt
    split <;> rfl

theorem Sound.enqueueDraft {accept : Bool} {stopsAfter : Option Nat} :
    Sound (o.enqueueDraft sha256 draft now accept stopsAfter) := by
  unfold Outbox.enqueueDraft
  split
  · exact hs
  · rename_i batch store h
    refine hs.keep ?_ ?_ fun f hf => scheduleAll_flights (o := { o with store := store }) hf
    · rw [scheduleAll_store]
      exact hs.store.enqueue h
    · rw [scheduleAll_store]
      rcases enqueue_ok h with ⟨-, -, hsame⟩ | ⟨-, -, hattempts, -⟩
      · exact startsNothing_of_attempts (by rw [hsame])
      · exact startsNothing_of_attempts hattempts

theorem Sound.cancelEvent : Sound (o.cancelEvent sha256 logicalEventId reason now) := by
  unfold Outbox.cancelEvent
  split
  · exact hs
  · rename_i n store h
    obtain ⟨-, -, hattempts, -⟩ := cancel_ok h
    exact hs.keep (hs.store.cancel h) (startsNothing_of_attempts hattempts) fun f hf => hf

theorem Sound.workOn {event : WorkerEvent} (hok : Orderly o (.work attemptId event)) :
    Sound (o.workOn attemptId event) := by
  unfold Outbox.workOn
  split
  · rename_i f hf
    have hid : f.attempt.attemptId = attemptId := by simpa using find?_some hf
    have hmem := mem_of_find?_eq_some hf
    refine hs.work hmem fun hne a ha => ?_
    rw [hid] at ha
    exact hok hne f hmem hid a ha
  · exact hs

theorem Sound.recovered {now : Instant} : Sound (o.recovered now) :=
  hs.keep hs.store.recover startsNothing_recover fun _ hf => hf

/-- **One step.** An orderly action keeps every chain sound. -/
theorem Sound.act {a : Action} (hok : Orderly o a) : Sound (act sha256 o a) := by
  cases a with
  | enqueue draft now accept stopsAfter => exact hs.enqueueDraft
  | cancel logicalEventId reason now => exact hs.cancelEvent
  | deliver eventId now isTask =>
    have hq : Sound (o.dequeue eventId isTask) := ⟨hs.store, hs.flights⟩
    have hqok : Orderly (o.dequeue eventId isTask) (.deliver eventId now isTask) := hok
    exact hq.beginFlight hqok
  | work attemptId event => exact hs.workOn hok
  | recoverNotificationTasks now stopsAfter =>
    refine hs.recovered.keep ?_ ?_ fun f hf => scheduleAll_flights hf
    · exact (scheduleAll_store _ stopsAfter (o := o.recovered now)) ▸ hs.recovered.store
    · exact startsNothing_of_attempts
        (congrArg Store.attempts (scheduleAll_store _ stopsAfter (o := o.recovered now)))
  | recoverBeforeConsuming now => exact hs.recovered
  | stop => exact ⟨hs.store, fun f hf => by cases hf⟩

/-! ## Rows whose last outcome ends the matter -/

end

/-- No attempt of the row can begin any more, short of a disorderly delivery. -/
def Store.Done (s : Store) (r : EventRow) : Prop :=
  r.status = .delivered ∨ r.status = .uncertain ∨
    (r.status = .failed ∧ (r.cancelledAt.isSome = true ∨ s.givenUp r = true))

theorem Store.Done.not_processing (h : s.Done r) : r.status ≠ .processing := by
  intro hstatus
  rcases h with h | h | ⟨h, -⟩ <;>
  · rw [hstatus] at h
    cases h

/-- The row is there still, with its status and its attempts as they were. -/
structure KeptIn (s s' : Store) (r : EventRow) (r' : EventRow) : Prop where
  mem : r' ∈ s'.events.rows
  id : r'.id = r.id
  status : r'.status = r.status
  attempts : s'.attemptsOf r.id = s.attemptsOf r.id
  done : s'.Done r'

theorem givenUp_congr (h : s'.attemptsOf r.id = s.attemptsOf r.id) :
    s'.givenUp r = s.givenUp r := by
  have hlast : lastFor s'.attempts.rows r.id = lastFor s.attempts.rows r.id :=
    congrArg List.getLast? h
  unfold Store.givenUp
  rw [hlast]

theorem KeptIn.of_same (hr : r ∈ s'.events.rows) (hdone : s.Done r)
    (hattempts : s'.attemptsOf r.id = s.attemptsOf r.id) : KeptIn s s' r r := by
  refine ⟨hr, rfl, rfl, hattempts, ?_⟩
  unfold Store.Done
  rw [givenUp_congr hattempts]
  exact hdone

theorem KeptIn.congr {s'' : Store} (h : KeptIn s s' r r') (hstore : s'' = s') :
    KeptIn s s'' r r' := hstore ▸ h

theorem kept_enqueue {accept : Bool} {b : EnqueueBatch} (hr : r ∈ s.events.rows) (hdone : s.Done r)
    (h : enqueue sha256 s draft now accept = .ok (b, s')) : KeptIn s s' r r := by
  rcases enqueue_ok h with ⟨-, -, rfl⟩ | ⟨-, -, hattempts, new, hrows, -⟩
  · exact .of_same hr hdone rfl
  · refine .of_same (hrows ▸ mem_append_left _ hr) hdone ?_
    unfold Store.attemptsOf
    rw [hattempts]

theorem kept_cancel {n : Nat} (hr : r ∈ s.events.rows) (hdone : s.Done r)
    (h : cancel sha256 s logicalEventId reason now = .ok (n, s')) : ∃ r', KeptIn s s' r r' := by
  obtain ⟨t, ht, hattempts, hrows⟩ := cancel_ok h
  have hrt : r ∈ t.rows := by
    rcases (raiseFence_ok ht).2 with rfl | hfrom
    · exact hr
    · exact hfrom ▸ mem_append_left _ hr
  have hof : s'.attemptsOf r.id = s.attemptsOf r.id := by
    unfold Store.attemptsOf
    rw [hattempts]
  have hmem := hrows ▸ mem_map_of_mem (f := fun r : EventRow =>
    if r.cancellable logicalEventId then r.cancel reason now else r) hrt
  by_cases hc : r.cancellable logicalEventId = true
  · rw [if_pos hc] at hmem
    have hfailed : r.status = .failed := by
      simp only [EventRow.cancellable, Bool.and_eq_true, Bool.or_eq_true, decide_eq_true_eq] at hc
      rcases hc.2 with hw | hw
      · rcases hdone with hd | hd | ⟨hd, -⟩ <;>
        · rw [hw] at hd
          cases hd
      · exact hw
    exact ⟨_, hmem, rfl, hfailed.symm, hof, .inr (.inr ⟨rfl, .inl rfl⟩)⟩
  · rw [if_neg hc] at hmem
    exact ⟨r, .of_same hmem hdone hof⟩

theorem attemptsOf_open {f : AttemptRow → AttemptRow} (hs : SoundStore s) (hr : r ∈ s.events.rows)
    (hdone : s.Done r) (ha : a ∈ s.attempts.rows) (hopen : a.finishedAt = none)
    (hk : ∀ r, attemptSchema.key (f r) = attemptSchema.key r)
    (hevent : ∀ a, (f a).eventId = a.eventId) :
    r.id ≠ a.eventId ∧ (s.setAttempt a.id f hk).attemptsOf r.id = s.attemptsOf r.id := by
  have hne : r.id ≠ a.eventId := by
    intro hid
    have hin := mem_attemptsOf.mpr ⟨ha, hid.symm⟩
    exact (hs.rows r hr).closed hdone.not_processing hin hopen
  exact ⟨hne, attemptsOf_setAttempt_other ha hk hevent hne⟩

theorem kept_beginFlight {isTask : Bool} (hs : Sound o)
    (hok : Orderly o (.deliver eventId now isTask)) (hr : r ∈ o.store.events.rows)
    (hdone : o.store.Done r) :
    ∃ r', KeptIn o.store (o.beginFlight eventId now isTask).store r r' := by
  -- a done row that `begin_attempt` would look at was given up
  have hgiven : ∀ row, o.store.event? eventId = some row → row.Startable → r.id = eventId →
      row = r ∧ r.status = .failed ∧ o.store.givenUp r = true := by
    intro row hrow hstart hid
    obtain ⟨hmem, hrid⟩ := event?_mem hrow
    obtain rfl := eventRow_eq_of_id hmem hr (hrid.trans hid.symm)
    rcases hdone with hd | hd | ⟨hd, hc | hg⟩
    · rcases hstart.2 with hw | hw <;>
      · rw [hw] at hd
        cases hd
    · rcases hstart.2 with hw | hw <;>
      · rw [hw] at hd
        cases hd
    · rw [hstart.1] at hc
      cases hc
    · exact ⟨rfl, hd, hg⟩
  unfold Outbox.beginFlight
  split
  · exact ⟨r, .of_same hr hdone rfl⟩
  · rename_i store hbegin
    rcases beginAttempt_ok hbegin with ⟨-, rfl⟩ | ⟨row, hrow, hstart, -, -, rfl⟩ | ⟨_, _, h, -⟩
    · exact ⟨r, .of_same hr hdone rfl⟩
    · have hmem := setEvent_rows (EventRow.expire_key now) ▸
        mem_map_of_mem (f := fun x : EventRow => if x.id = eventId then x.expire now else x) hr
      by_cases hid : r.id = eventId
      · rw [if_pos hid] at hmem
        obtain ⟨-, hfailed, -⟩ := hgiven row hrow hstart hid
        refine ⟨_, hmem, rfl, hfailed.symm, rfl, .inr (.inr ⟨rfl, .inr ?_⟩)⟩
        unfold Store.givenUp
        simp [EventRow.expire]
      · rw [if_neg hid] at hmem
        exact ⟨r, .of_same hmem hdone rfl⟩
    · cases h
  · rename_i attempt store hbegin
    rcases beginAttempt_ok hbegin with ⟨h, -⟩ | ⟨_, _, _, -, h, -⟩ | ⟨row, a, -, hbegun⟩
    · cases h
    · cases h
    · by_cases hid : r.id = eventId
      · -- the delivery would have been disorderly
        obtain ⟨rfl, -, hg⟩ := hgiven row hbegun.found hbegun.startable hid
        have hroom := hbegun.room
        have hprevious := (hs.store.rows row hr).previous
        rw [hid] at hprevious
        rw [hprevious] at hroom
        rcases hok row hbegun.found hg with hc | he | hl
        · rw [hbegun.startable.1] at hc
          cases hc
        · rw [hbegun.unexpired] at he
          cases he
        · omega
      · have hmem := setEvent_rows (EventRow.process_key now) ▸ mem_map_of_mem
          (f := fun x : EventRow => if x.id = eventId then x.process now else x) hr
        rw [if_neg hid] at hmem
        have hkept : KeptIn o.store ((o.store.setEvent eventId (EventRow.process now)
            (EventRow.process_key now)).addAttempt eventId now) r r := by
          refine .of_same hmem hdone ?_
          rw [attemptsOf_addAttempt, if_neg hid, append_nil]
          rfl
        exact ⟨r, hkept.congr hbegun.store⟩

theorem kept_settleFlight (hs : Sound o)
    (hopen : ∀ a ∈ o.store.attempt? f.attempt.attemptId, a.finishedAt = none)
    (hr : r ∈ o.store.events.rows) (hdone : o.store.Done r) :
    ∃ r', KeptIn o.store (o.settleFlight f settlement).store r r' := by
  unfold Outbox.settleFlight
  split
  · exact ⟨r, .of_same hr hdone rfl⟩
  · rename_i store hsettle
    obtain ⟨-, a, ha, hstore⟩ := settle_ok hsettle
    obtain ⟨hmem, hid⟩ := attempt?_mem ha
    obtain ⟨hne, hof⟩ := attemptsOf_open (f := AttemptRow.settle settlement f.now) hs.store hr hdone
      hmem (hopen a ha) (AttemptRow.settle_key settlement f.now) (fun _ => rfl)
    have hkept : KeptIn o.store store r r := by
      rw [hstore]
      refine .of_same ?_ hdone (hid ▸ hof)
      have hin := setEvent_rows (EventRow.settle_key settlement f.now) ▸ mem_map_of_mem
        (f := fun x : EventRow => if x.id = a.eventId then x.settle settlement f.now else x) hr
      rw [if_neg hne] at hin
      exact hin
    dsimp only
    split <;> exact ⟨r, hkept⟩

theorem kept_startTransport (hs : Sound o)
    (hopen : ∀ a ∈ o.store.attempt? f.attempt.attemptId, a.finishedAt = none)
    (hr : r ∈ o.store.events.rows) (hdone : o.store.Done r) :
    ∃ r', KeptIn o.store (o.startTransport f).store r r' := by
  unfold Outbox.startTransport
  split
  · refine ⟨r, .of_same hr hdone ?_⟩
    show (o.store.setAttempt _ _ _).attemptsOf r.id = _
    rw [attemptsOf_setAttempt AttemptRow.start_key (fun _ => rfl)]
    refine (map_congr_left fun b hb => ?_).trans (map_id _)
    have hb' := mem_attemptsOf.mp hb
    rw [if_neg]
    · rfl
    · intro hid
      -- the marked attempt is open, and a done row has none
      have hnone := hopen b (hid ▸ attempt?_of_mem hb'.1)
      exact (hs.store.rows r hr).closed hdone.not_processing hb hnone
  · exact ⟨r, .of_same hr hdone rfl⟩

theorem kept_workOn {event : WorkerEvent} (hs : Sound o) (hok : Orderly o (.work attemptId event))
    (hr : r ∈ o.store.events.rows) (hdone : o.store.Done r) :
    ∃ r', KeptIn o.store (o.workOn attemptId event).store r r' := by
  unfold Outbox.workOn
  split
  · rename_i f hf
    have hid : f.attempt.attemptId = attemptId := by simpa using find?_some hf
    have hopen : event ≠ .abandoned →
        ∀ a ∈ o.store.attempt? f.attempt.attemptId, a.finishedAt = none := by
      intro hne a ha
      rw [hid] at ha
      exact hok hne f (mem_of_find?_eq_some hf) hid a ha
    unfold Outbox.work
    split
    · exact ⟨r, .of_same hr hdone rfl⟩
    · exact kept_startTransport hs (hopen (by simp)) hr hdone
    · rename_i habandoned _
      split
      · exact kept_settleFlight hs (hopen habandoned) hr hdone
      · exact ⟨r, .of_same hr hdone rfl⟩
  · exact ⟨r, .of_same hr hdone rfl⟩

theorem kept_recovered (hs : Sound o) (hr : r ∈ o.store.events.rows) (hdone : o.store.Done r) :
    KeptIn o.store (o.recovered now).store r r := by
  rcases hs.store.recover_row now hr with ⟨init, a, hinit, hopen, -, -⟩ | ⟨-, hlast, hof⟩
  · refine absurd hopen ((hs.store.rows r hr).closed hdone.not_processing ?_)
    rw [hinit]
    simp
  · have hmem : recoverRow o.store.incompleteAttempts now r ∈
        (o.recovered now).store.events.rows := by
      show _ ∈ (recoverIncompleteAttempts o.store now).2.events.rows
      rw [recover_events]
      exact mem_map_of_mem hr
    have hsame : recoverRow o.store.incompleteAttempts now r = r := by
      unfold recoverRow
      rw [hlast]
    rw [hsame] at hmem
    exact .of_same hmem hdone hof

/-- **One step.** A done row keeps its status and its attempts through every orderly action. -/
theorem kept_act {a : Action} (hs : Sound o) (hok : Orderly o a) (hr : r ∈ o.store.events.rows)
    (hdone : o.store.Done r) : ∃ r', KeptIn o.store (act sha256 o a).store r r' := by
  cases a with
  | enqueue draft now accept stopsAfter =>
    show ∃ r', KeptIn o.store (o.enqueueDraft sha256 draft now accept stopsAfter).store r r'
    unfold Outbox.enqueueDraft
    split
    · exact ⟨r, .of_same hr hdone rfl⟩
    · rename_i batch store h
      exact ⟨r, .congr (kept_enqueue hr hdone h) (scheduleAll_store _ _)⟩
  | cancel logicalEventId reason now =>
    show ∃ r', KeptIn o.store (o.cancelEvent sha256 logicalEventId reason now).store r r'
    unfold Outbox.cancelEvent
    split
    · exact ⟨r, .of_same hr hdone rfl⟩
    · rename_i n store h
      exact kept_cancel hr hdone h
  | deliver eventId now isTask =>
    have hq : Sound (o.dequeue eventId isTask) := ⟨hs.store, hs.flights⟩
    have hqok : Orderly (o.dequeue eventId isTask) (.deliver eventId now isTask) := hok
    exact kept_beginFlight hq hqok hr hdone
  | work attemptId event => exact kept_workOn hs hok hr hdone
  | recoverNotificationTasks now stopsAfter =>
    exact ⟨r, .congr (kept_recovered hs hr hdone) (scheduleAll_store _ _)⟩
  | recoverBeforeConsuming now => exact ⟨r, kept_recovered hs hr hdone⟩
  | stop => exact ⟨r, .of_same hr hdone rfl⟩

/-! ## Runs -/

/-- The attempts of a row, as the outbox promises them. -/
structure AttemptsInOrder (attempts : List AttemptRow) : Prop where
  numbered : attempts.map AttemptRow.attemptNo = List.range' 1 attempts.length
  bounded : attempts.length ≤ maxDeliveryAttempts
  oneOpen : ∀ a ∈ attempts, ∀ b ∈ attempts, a.finishedAt = none → b.finishedAt = none → a = b
  /-- a second transport follows only transports that failed and said they may be retried -/
  transports : ∀ a ∈ attempts, ∀ b ∈ attempts, a.attemptNo < b.attemptNo → a.attempted = true →
    b.attempted = true → a.finishedAt.isSome = true ∧ a.outcome = "retryable_failure"

/-- Outcomes after which the row is to be left alone. -/
def terminalOutcome (a : AttemptRow) : Bool :=
  a.ok || decide (a.outcome = "transport_outcome_uncertain")
    || decide (a.outcome = "permanent_failure")

/-- The latest outcome of the row is delivered, quiet-suppressed, uncertain, a permanent failure, or
its expiry before the transport. -/
def Store.concluded (s : Store) (r : EventRow) : Bool :=
  (match lastFor s.attempts.rows r.id with
    | some a => terminalOutcome a
    | none => false)
    || (decide (r.status = .failed) && decide (r.lastError = some "expired_before_transport"))

theorem Chained.inOrder (h : Chained l r) : AttemptsInOrder l := by
  refine ⟨h.numbered, h.bounded, ?_, ?_⟩
  · intro a ha b hb hopen hopen'
    obtain ⟨⟨init, hinit⟩, -, -⟩ := h.open_last ha hopen
    obtain ⟨⟨init', hinit'⟩, -, -⟩ := h.open_last hb hopen'
    have hlast := (append_inj' (hinit.symm.trans hinit') rfl).2
    exact (List.cons.inj hlast).1
  · intro a ha b hb hlt hstarted _
    have hspent : a ∈ l.dropLast := by
      rcases eq_nil_or_concat l with rfl | ⟨init, last, rfl⟩
      · cases ha
      · rw [concat_eq_append] at h ha hb ⊢
        rw [dropLast_concat]
        rcases mem_append.mp ha with ha | ha
        · exact ha
        · -- the last attempt has the highest number
          exfalso
          obtain rfl := mem_singleton.mp ha
          have hnumbered := h.numbered
          rw [map_append, map_singleton, length_append, length_singleton,
            range'_concat] at hnumbered
          have hno := (List.cons.inj (append_inj' hnumbered rfl).2).1
          have hbno : b.attemptNo ∈ List.range' 1 (init.length + 1) := by
            rw [range'_concat, ← hnumbered]
            rcases mem_append.mp hb with hb | hb
            · exact mem_append_left _ (mem_map_of_mem hb)
            · rw [mem_singleton.mp hb]
              simp
          rw [mem_range'] at hbno
          obtain ⟨i, hi, hbi⟩ := hbno
          omega
    have hs := h.spent a hspent
    exact ⟨hs.finished, hs.explicit hstarted⟩

theorem SoundStore.done (hs : SoundStore s) (hr : r ∈ s.events.rows)
    (hconcluded : s.concluded r = true) : s.Done r := by
  have hchain := hs.rows r hr
  have hagrees := hchain.agrees
  unfold Store.concluded at hconcluded
  rw [Bool.or_eq_true] at hconcluded
  rcases hconcluded with hlast | hexpired
  · have hlastEq : lastFor s.attempts.rows r.id = (s.attemptsOf r.id).getLast? := rfl
    rw [hlastEq] at hlast
    cases hl : (s.attemptsOf r.id).getLast? with
    | none =>
      rw [hl] at hlast
      cases hlast
    | some a =>
      rw [hl] at hlast hagrees
      cases hagrees with
      | inFlight _ hok houtcome _ => simp [terminalOutcome, hok, houtcome] at hlast
      | settled _ _ hstatus =>
        unfold verdict at hstatus
        by_cases hok : a.ok = true
        · rw [if_pos hok] at hstatus
          exact .inl hstatus
        · rw [if_neg hok] at hstatus
          by_cases huncertain : a.outcome = "transport_outcome_uncertain"
          · rw [if_pos huncertain] at hstatus
            exact .inr (.inl hstatus)
          · rw [if_neg huncertain] at hstatus
            have hpermanent : a.outcome = "permanent_failure" := by
              simpa [terminalOutcome, hok, huncertain] using hlast
            refine .inr (.inr ⟨hstatus, .inr ?_⟩)
            unfold Store.givenUp
            rw [hlastEq, hl]
            simp [hpermanent]
  · simp only [Bool.and_eq_true, decide_eq_true_eq] at hexpired
    refine .inr (.inr ⟨hexpired.1, .inr ?_⟩)
    unfold Store.givenUp
    simp [hexpired.2]

theorem sound_empty : Sound Outbox.empty :=
  ⟨⟨by simp [Outbox.empty, Store.empty, Table.empty], by
    simp [Outbox.empty, Store.empty, Table.empty]⟩, by simp [Outbox.empty]⟩

/-- What is promised of a run that goes on from `o` to `o'`. -/
structure OutcomesFinal (o o' : Outbox) : Prop where
  inOrder : ∀ r ∈ o'.store.events.rows, AttemptsInOrder (o'.store.attemptsOf r.id)
  final : ∀ r ∈ o.store.events.rows, o.store.concluded r = true →
    ∃ r' ∈ o'.store.events.rows, r'.id = r.id ∧ r'.status = r.status ∧
      o'.store.attemptsOf r.id = o.store.attemptsOf r.id

/-- **Terminal outcomes are final.** In every run of orderly actions, by however many workers and
with duplicate enqueues, redeliveries, recoveries and stops anywhere in it. -/
theorem outcomes_final {past rest : List (Action × Unit)}
    (hbefore : Run (actStep sha256) Orderly Outbox.empty past o)
    (hafter : Run (actStep sha256) Orderly o rest o') : OutcomesFinal o o' := by
  have hs : Sound o := hbefore.invariant sound_empty fun _ _ hs hok => hs.act hok
  constructor
  · intro r hr
    have hs' : Sound o' := hafter.invariant hs fun _ _ hs hok => hs.act hok
    exact (hs'.store.rows r hr).inOrder
  · intro r hr hconcluded
    have hdone := hs.store.done hr hconcluded
    have hkept : Sound o' ∧ ∃ r', KeptIn o.store o'.store r r' := by
      refine hafter.invariant (I := fun q => Sound q ∧ ∃ r', KeptIn o.store q.store r r')
        ⟨hs, r, .of_same hr hdone rfl⟩ ?_
      rintro q a ⟨hq, r', hr'⟩ hok
      refine ⟨hq.act hok, ?_⟩
      have hstep : ∃ r'', KeptIn q.store (act sha256 q a).store r' r'' :=
        kept_act hq hok hr'.mem hr'.done
      obtain ⟨r'', hr''⟩ := hstep
      refine ⟨r'', hr''.mem, hr''.id.trans hr'.id, hr''.status.trans hr'.status, ?_, hr''.done⟩
      have hattempts := hr''.attempts
      rw [hr'.id] at hattempts
      exact hattempts.trans hr'.attempts
    obtain ⟨-, r', hr'⟩ := hkept
    exact ⟨r', hr'.mem, hr'.id, hr'.status, hr'.attempts⟩

/-! ## A permanent failure enqueued once more -/

def setupDraft : NotificationDraft where
  logicalEventId := "setup"
  payload := ⟨"{}", none⟩
  channels := ["bark"]
  expiresAt := none

/-- The row's one attempt ends with what a sink answered. -/
def deliveredOnce (sink : SinkResult) : List Action :=
  [.enqueue setupDraft 0 false none, .deliver 1 1000000 true, .work 1 .started,
    .work 1 (.sank sink)]

def rejected : SinkResult where
  sink := "bark"
  attempted := true
  ok := false
  error := some "http status 400"
  permanent := true

/-- The duplicate schedules the failed row, and its delivery starts a second transport. -/
def enqueuedAgain : List Action :=
  [.enqueue setupDraft 2000000 false none, .deliver 1 3000000 true, .work 2 .started]

theorem permanent_failure_retried : ∃ past o rest o', Run (actStep id) anyStep Outbox.empty past o ∧
      Run (actStep id) anyStep o rest o' ∧ ¬ OutcomesFinal o o' := by
  refine ⟨_, _, _, _, Run.play (allowed_anyStep (deliveredOnce rejected) Outbox.empty),
    Run.play (allowed_anyStep enqueuedAgain _), fun hfinal => ?_⟩
  let o := (play (actStep id) Outbox.empty (deliveredOnce rejected)).2
  let o' := (play (actStep id) o enqueuedAgain).2
  have hrow : ∃ r ∈ o.store.events.rows, r.id = 1 ∧ o.store.concluded r = true := by
    decide +kernel
  obtain ⟨r, hr, hid, hconcluded⟩ := hrow
  obtain ⟨-, -, -, -, hattempts⟩ := hfinal.final r hr hconcluded
  have hlength : (o'.store.attemptsOf 1).length = 2 ∧ (o.store.attemptsOf 1).length = 1 := by
    decide +kernel
  have hsame : o'.store.attemptsOf 1 = o.store.attemptsOf 1 := hid ▸ hattempts
  rw [hsame] at hlength
  omega

instance (o : Outbox) (a : Action) : Decidable (Orderly o a) :=
  match a with
  | .deliver eventId now _ => inferInstanceAs (Decidable (∀ r ∈ o.store.event? eventId,
      o.store.givenUp r = true → r.cancelledAt.isSome = true ∨ r.expired now = true
        ∨ maxDeliveryAttempts ≤ (o.store.attemptsOf eventId).length))
  | .work attemptId event => inferInstanceAs (Decidable (event ≠ .abandoned →
      ∀ f ∈ o.flights, f.attempt.attemptId = attemptId →
        ∀ a ∈ o.store.attempt? attemptId, a.finishedAt = none))
  | .enqueue .. | .cancel .. | .recoverNotificationTasks .. | .recoverBeforeConsuming .. | .stop =>
    .isTrue trivial

def busy : SinkResult where
  sink := "bark"
  attempted := true
  ok := false
  error := some "bark response code=429"
  permanent := false

def accepted : SinkResult where
  sink := "bark"
  attempted := true
  ok := true
  error := none
  permanent := false

/-- A busy sink is tried again, and after its delivery a duplicate changes nothing. -/
theorem outcomes_final_delivered :
    let past := deliveredOnce busy ++ [.deliver 1 7000000 true, .work 2 .started,
      .work 2 (.sank accepted)]
    let rest := [.enqueue setupDraft 8000000 false none, .deliver 1 9000000 true]
    OutcomesFinal (play (actStep id) Outbox.empty past).2
      (play (actStep id) (play (actStep id) Outbox.empty past).2 rest).2 := by
  intro past rest
  exact outcomes_final (Run.play (show Allowed _ Orderly _ past by decide +kernel))
    (Run.play (show Allowed _ Orderly _ rest by decide +kernel))

end SpxSpark.Notifications
