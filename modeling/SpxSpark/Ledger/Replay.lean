import Mathlib.Data.String.Basic
import SpxSpark.Ledger.Supersession

/-!
# Replay — what a replayed operator notification is answered

The answer is computed again from the events that are stored. A stored event stays, under
identities no other event can have; a suppressed notification has left nothing behind, and its
identities are free for another event to take.
-/

open SpxSpark.Domain SpxSpark.Lib

namespace SpxSpark.Ledger

open Txn List

variable {D : Type}

/-! ## The events of a run -/

section

variable [CanonicalHash D] {s s' : Ledger D} {op : Op D} {out : Outcome}

/-- An operation adds one event at most, and an operator notification only when it accepts it. -/
theorem Op.did_events (h : op.did s out s') :
    ∃ added : Option (EventRow D), s'.events.rows = s.events.rows ++ added.toList ∧
      ∀ row ∈ added, row.notification? = accepted (op, .ok out) := by
  have quiet : s'.events.rows = s.events.rows → ∃ added : Option (EventRow D),
      s'.events.rows = s.events.rows ++ added.toList ∧
        ∀ row ∈ added, row.notification? = accepted (op, .ok out) := by
    intro hsame
    exact ⟨none, by rw [hsame, Option.toList_none, append_nil], fun _ hrow => nomatch hrow⟩
  have still : (∀ e, ¬ op.permits (.event e)) → s'.events.rows = s.events.rows :=
    fun hp => (Op.did_moves 0 h).events_eq hp
  have offers : ∀ {now : DateTime} {d : Option Document}, OffersOther now d s s' →
      accepted (op, .ok out) = none → ∃ added : Option (EventRow D),
        s'.events.rows = s.events.rows ++ added.toList ∧
          ∀ row ∈ added, row.notification? = accepted (op, .ok out) := by
    intro now d ho hnone
    rcases ho.outbox with hsame | ⟨row, -, hother, -, hpub | hrep⟩
    · exact quiet (congrArg Outbox.events hsame)
    · refine ⟨some row, hpub.events, fun found hfound => ?_⟩
      cases hfound
      rw [hother, hnone]
    · exact quiet hrep.events
  cases op with
  | persistDecision | persistScheduledReport => exact offers h rfl
  | persistOperatorNotification draws lease n maxAttempts now =>
    obtain ⟨-, w, rfl, hw⟩ := h
    have hevents : (outbox s').events = s'.events.rows := rfl
    generalize outbox s' = o' at hw hevents
    cases hw with
    | @inserted _ row _ _ _ hrow _ _ hcancels _ hpub =>
      refine ⟨some row, ?_, fun found hfound => ?_⟩
      · rw [← hevents, hpub.events, hcancels.events_eq not_cancels_event]
        rfl
      · cases hfound
        rw [hrow]
        rfl
    | duplicate _ _ hrep => exact quiet (hevents.symm.trans hrep.events)
    | suppressed => exact quiet hevents.symm
  | _ => exact quiet (still (by simp [Op.permits, ShiftsBy]))

end

/-! ## The two answers -/

section

variable [DecidableEq D] [CanonicalHash D] {s s' t : Ledger D} {n : OperatorNotificationV1}
  {lease : OwnerLease} {now : DateTime} {log : List (Op D × Except LedgerError Outcome)}

/-- What the answer of `persist_operator_notification` says about the stored events. -/
structure Disposed (n : OperatorNotificationV1) (row : EventRow D) (s : Ledger D)
    (w : OperatorNotificationWrite) (s' : Ledger D) : Prop where
  valid : n.validate = .ok ()
  suppressed : w = .semanticSuppressed →
    matchingOperatorNotifications s n = [] ∧ enforceOperatorLifecycle s n = .suppress ∧ s' = s
  stored : w ≠ .semanticSuppressed → ∃ e ∈ s'.events.rows, matchesExact e row = true

theorem matchesExact_self (lease : OwnerLease) (n : OperatorNotificationV1) (now : DateTime) :
    matchesExact (notificationEventRow lease n now : EventRow D)
      (notificationEventRow lease n now) = true := by
  simp [matchesExact, notificationEventRow]

theorem persistOperatorNotification_disposed {draws : Draws} {maxAttempts : Nat} :
    wp (persistOperatorNotification draws lease n maxAttempts now)
      (fun w s' => Disposed n (notificationEventRow lease n now) s w s') (fun _ => True) s := by
  simp only [persistOperatorNotification, wp_bind, wp_liftDomain, wp_ensure,
    wp_requireOwner, wp_get]
  refine ⟨fun _ hvalid => ⟨fun hm => ⟨fun _ _ => ?_, fun _ => trivial, fun _ _ => trivial⟩,
    fun _ => trivial⟩, fun _ _ => trivial⟩
  let row : EventRow D := notificationEventRow lease n now
  split
  · rename_i hmatching
    simp only [wp_ite, wp_bind, wp_fencedByCancellation, wp_insertInto, wp_pure]
    refine ⟨fun hsuppress => ⟨hvalid, fun _ => ⟨hmatching, hsuppress, rfl⟩,
      fun h => absurd rfl h⟩, fun _ => ?_⟩
    refine wp_supersede fun mid ids _ _ => ?_
    refine ⟨fun hf => ⟨fun t hins => ?_, fun _ _ => trivial⟩, fun _ => trivial⟩
    refine publish_targets now row hm.1 rfl hf hins fun s' hp _ => ?_
    refine ⟨hvalid, (by rintro ⟨⟩), fun _ => ⟨row, ?_, matchesExact_self lease n now⟩⟩
    have hevents : s'.events.rows = mid.events.rows ++ [row] := hp.events
    rw [hevents]
    simp
  · rename_i stored hmatch
    simp only [wp_bind, wp_ensure, wp_pure]
    refine ⟨fun hexact => ?_, fun _ => trivial⟩
    have hmem : stored ∈ s.events.rows := by
      have hfound : stored ∈ matchingOperatorNotifications s n := by simp [hmatch]
      exact (mem_filter.mp hfound).1
    refine republish_found now row hm.1 hmatch hexact fun s' hp _ => ?_
    refine ⟨hvalid, (by rintro ⟨⟩), fun _ => ⟨stored, ?_, hexact⟩⟩
    have hevents : s'.events.rows = s.events.rows := hp.events
    rwa [hevents]
  · trivial

theorem matching_of_exact {stored : EventRow D} (hmem : stored ∈ s.events.rows)
    (hexact : matchesExact stored (notificationEventRow lease n now) = true) :
    matchingOperatorNotifications s n = [stored] := by
  simp only [matchesExact, Bool.and_eq_true, beq_iff_eq] at hexact
  have hid : stored.eventId = n.eventId.value := by tauto
  have hsemantic : stored.semanticId = n.semanticId.value := by tauto
  obtain ⟨before, after, hsplit⟩ := append_of_mem hmem
  have hdistinct := s.events.distinct
  rw [hsplit, pairwise_append, pairwise_cons] at hdistinct
  obtain ⟨-, ⟨hafter, -⟩, hbefore⟩ := hdistinct
  -- No other row shares an identity with the stored one.
  have hfree : ∀ e : EventRow D,
      (eventSchema D).clash ((eventSchema D).key e) ((eventSchema D).key stored) = false ∨
        (eventSchema D).clash ((eventSchema D).key stored) ((eventSchema D).key e) = false →
      ¬ (decide (e.eventId = n.eventId.value) || decide (e.semanticId = n.semanticId.value)) =
        true := by
    intro e hclash
    simp only [eventSchema, Bool.or_eq_false_iff, beq_eq_false_iff_ne, ne_eq] at hclash
    rw [Bool.or_eq_true, decide_eq_true_eq, decide_eq_true_eq, ← hid, ← hsemantic]
    rcases hclash with ⟨⟨hne, hne'⟩, -⟩ | ⟨⟨hne, hne'⟩, -⟩
    · rintro (heq | heq)
      · exact hne heq
      · exact hne' heq
    · rintro (heq | heq)
      · exact hne heq.symm
      · exact hne' heq.symm
  unfold matchingOperatorNotifications
  rw [hsplit, filter_append, filter_cons_of_pos (by simp [hid]),
    filter_eq_nil_iff.mpr fun e he => hfree e (.inl (hbefore e he stored mem_cons_self)),
    filter_eq_nil_iff.mpr fun e he => hfree e (.inr (hafter e he))]
  rfl

/-- The answer of a replay, by the events that match. -/
def replayAnswer (n : OperatorNotificationV1) (row : EventRow D) :
    List (EventRow D) → Except LedgerError Outcome
  | [] => .ok (.notified .semanticSuppressed)
  | [stored] => if matchesExact stored row then .ok (.notified .duplicate)
      else .error (traderEventCollision n)
  | _ => .error (traderEventCollision n)

theorem step_replay (hvalid : n.validate = .ok ()) (hrole : lease.role = .core)
    (hlive : holdsRole s lease now = true) : (step s (.replayOperatorNotification lease n now)).1 =
      replayAnswer n (notificationEventRow lease n now) (matchingOperatorNotifications s n) := by
  have hwp : wp (Op.run (.replayOperatorNotification lease n now))
      (fun out _ => .ok out = replayAnswer n (notificationEventRow lease n now)
        (matchingOperatorNotifications s n))
      (fun e => .error e = replayAnswer n (notificationEventRow lease n now)
        (matchingOperatorNotifications s n)) s := by
    simp only [Op.run, replayOperatorNotification, wp_bind, wp_liftDomain, wp_requireOwner, wp_get]
    refine ⟨fun _ _ => ⟨fun _ _ => ?_, fun h => absurd hrole h, fun _ hlost => ?_⟩,
      fun e he => ?_⟩
    · split
      · rename_i hnone
        rw [hnone]
        exact rfl
      · rename_i stored hone
        rw [hone]
        simp only [wp_bind, wp_ensure, wp_pure, replayAnswer]
        exact ⟨fun hexact => (if_pos hexact).symm, fun hexact => (if_neg hexact).symm⟩
      · rename_i hempty hsingle
        rcases hmatch : matchingOperatorNotifications s n with _ | ⟨first, _ | ⟨second, rest⟩⟩
        · exact absurd hmatch hempty
        · exact absurd hmatch (hsingle first)
        · exact rfl
    · rw [hlive] at hlost
      cases hlost
    · rw [hvalid] at he
      cases he
  rcases hs : step s (.replayOperatorNotification lease n now) with ⟨e | out, s'⟩
  · have hanswer := wp_error hwp (commit_error hs).1
    exact hanswer
  · have hanswer := wp_ok hwp (commit_ok hs)
    exact hanswer

/-! ## Runs -/

omit [DecidableEq D] [CanonicalHash D] in
theorem suppress_mono (hkept : ∀ e ∈ s.events.rows, e ∈ t.events.rows)
    (h : enforceOperatorLifecycle s n = .suppress) : enforceOperatorLifecycle t n = .suppress := by
  have hany : ∀ test : OperatorNotificationV1 → Bool,
      (opportunityEvents s n.opportunityId).any test = true →
        (opportunityEvents t n.opportunityId).any test = true := by
    intro test htest
    obtain ⟨m, hm, htrue⟩ := any_eq_true.mp htest
    obtain ⟨hstored, hown⟩ := mem_filter.mp hm
    obtain ⟨e, he, hnote⟩ := mem_filterMap.mp hstored
    exact any_eq_true.mpr ⟨m, mem_filter.mpr
      ⟨mem_filterMap.mpr ⟨e, hkept e he, hnote⟩, hown⟩, htrue⟩
  have hfalse : ∀ test : OperatorNotificationV1 → Bool,
      ¬ (opportunityEvents t n.opportunityId).any test = true →
        ¬ (opportunityEvents s n.opportunityId).any test = true :=
    fun test hnot htest => hnot (hany test htest)
  -- A test that lets the notification through lets it through before the events were added.
  unfold enforceOperatorLifecycle at h ⊢
  dsimp only at h ⊢
  split
  · rfl
  rename_i hlater
  rw [if_neg (hfalse _ hlater)] at h
  split
  · rfl
  rename_i hexit
  rw [if_neg (hfalse _ hexit)] at h
  split
  · rfl
  rename_i hcancel
  rw [Bool.and_eq_true, not_and] at hcancel
  have hcancel' : ¬ ((opportunityEvents s n.opportunityId).any (fun e =>
      decide (e.generation = n.generation) && decide (e.role = .cancel)) && n.role != .exit) =
        true := by
    rw [Bool.and_eq_true, not_and]
    exact fun htest => hcancel (hany _ htest)
  rw [if_neg hcancel'] at h
  split at h
  case h_4 => cases h
  all_goals
    split at h
    · rename_i htest
      exact if_pos (hany _ htest)
    · cases h

/-- What the answer to a notification says of the ledger. -/
structure Processed (n : OperatorNotificationV1) (w : OperatorNotificationWrite) (s : Ledger D) :
    Prop where
  valid : n.validate = .ok ()
  stored : w ≠ .semanticSuppressed → ∃ e ∈ s.events.rows, ∀ (lease : OwnerLease) (now : DateTime),
    matchesExact e (notificationEventRow lease n now) = true
  suppressed : w = .semanticSuppressed → enforceOperatorLifecycle s n = .suppress ∧
    ∀ e ∈ s.events.rows, e.notification? = some n → e.eventId ≠ n.eventId.value

theorem Processed.of_step {w : OperatorNotificationWrite} {draws : Draws} {maxAttempts : Nat}
    (h : step s (.persistOperatorNotification draws lease n maxAttempts now) =
      (.ok (.notified w), s')) : Processed n w s' := by
  have hrun : wp (Op.run (.persistOperatorNotification draws lease n maxAttempts now))
      (fun out s' => ∀ w, out = .notified w →
        Disposed n (notificationEventRow lease n now) s w s') (fun _ => True) s := by
    simp only [Op.run, wp_bind, wp_pure]
    refine wp_mono (fun w' s' hd w hw => ?_) (fun _ _ => trivial)
      persistOperatorNotification_disposed
    cases hw
    exact hd
  obtain ⟨hvalid, hsuppressed, hstored⟩ := wp_ok hrun (commit_ok h) w rfl
  refine ⟨hvalid, fun hw => ?_, fun hw => ?_⟩
  · obtain ⟨e, he, hexact⟩ := hstored hw
    exact ⟨e, he, fun _ _ => hexact⟩
  · obtain ⟨hmatching, hsuppress, rfl⟩ := hsuppressed hw
    refine ⟨hsuppress, fun e he _ hid => ?_⟩
    have hout := filter_eq_nil_iff.mp hmatching e he
    rw [Bool.or_eq_true, decide_eq_true_eq] at hout
    exact hout (.inl hid)

/-- **Every operation keeps it.** -/
theorem Processed.step {w : OperatorNotificationWrite} (h : Processed n w s) (op : Op D) :
    Processed n w (step s op).2 := by
  rcases hs : Ledger.step s op with ⟨e | out, s'⟩
  · rw [step_error hs]
    exact h
  · obtain ⟨added, hrows, hadded⟩ := Op.did_events (step_did hs)
    have hkept : ∀ e ∈ s.events.rows, e ∈ s'.events.rows := by
      intro e he
      rw [hrows]
      exact mem_append_left _ he
    refine ⟨h.valid, fun hw => ?_, fun hw => ?_⟩
    · obtain ⟨e, he, hexact⟩ := h.stored hw
      exact ⟨e, hkept e he, hexact⟩
    · obtain ⟨hsuppress, habsent⟩ := h.suppressed hw
      refine ⟨suppress_mono hkept hsuppress, fun e he hnote => ?_⟩
      rw [hrows] at he
      rcases mem_append.mp he with he | he
      · exact habsent e he hnote
      · -- The gate lets no notification through that it suppressed before.
        rw [hadded e (Option.mem_toList.mp he)] at hnote
        have hpersist := (Op.did_notifications (step_did hs)).2 n hnote
        rw [hsuppress] at hpersist
        cases hpersist

/-- **The replay of a processed notification.** One that was accepted, or found stored, is answered
as a duplicate. One that was suppressed is answered as suppressed, as long as no event has one of
its identities; once one does, the identities collide. -/
theorem replay_disposition {lease' : OwnerLease} {draws : Draws} {maxAttempts : Nat}
    {earlier : DateTime} {w : OperatorNotificationWrite} (h : LedgerRun anyStep migrated log s)
    (hprocessed : (.persistOperatorNotification draws lease' n maxAttempts earlier,
      .ok (.notified w)) ∈ log) (hrole : lease.role = .core)
    (hlive : holdsRole s lease now = true) : (w ≠ .semanticSuppressed →
      (step s (.replayOperatorNotification lease n now)).1 = .ok (.notified .duplicate)) ∧
    (w = .semanticSuppressed →
      ((∀ e ∈ s.events.rows, e.eventId ≠ n.eventId.value ∧ e.semanticId ≠ n.semanticId.value) →
        (step s (.replayOperatorNotification lease n now)).1 =
          .ok (.notified .semanticSuppressed)) ∧
      (Function.Injective (canonicalJsonHash : Document → D) →
        (∃ e ∈ s.events.rows, e.eventId = n.eventId.value ∨ e.semanticId = n.semanticId.value) →
        (step s (.replayOperatorNotification lease n now)).1 =
          .error (traderEventCollision n))) := by
  have hkept : Processed n w s := by
    refine h.invariant_log (I := fun log s => (.persistOperatorNotification draws lease' n
      maxAttempts earlier, .ok (.notified w)) ∈ log → Processed n w s) (fun hmem => nomatch hmem)
      (fun log s op hI _ hmem => ?_) hprocessed
    rcases mem_append.mp hmem with hmem | hmem
    · exact (hI hmem).step op
    · obtain ⟨hop, hanswer⟩ := Prod.mk.inj (mem_singleton.mp hmem)
      subst hop
      exact .of_step (Prod.ext hanswer.symm rfl)
  rw [step_replay hkept.valid hrole hlive]
  refine ⟨fun hw => ?_, fun hw => ⟨fun hfree => ?_, fun hhash htaken => ?_⟩⟩
  · obtain ⟨e, he, hexact⟩ := hkept.stored hw
    rw [matching_of_exact he (hexact lease now)]
    exact if_pos (hexact lease now)
  · have hnone : matchingOperatorNotifications s n = [] := by
      refine filter_eq_nil_iff.mpr fun e he => ?_
      rw [Bool.or_eq_true, decide_eq_true_eq, decide_eq_true_eq]
      exact not_or.mpr (hfree e he)
    rw [hnone]
    rfl
  · obtain ⟨-, habsent⟩ := hkept.suppressed hw
    have hexact : ∀ e ∈ matchingOperatorNotifications s n,
        ¬ matchesExact e (notificationEventRow lease n now) = true := by
      intro e he hexact
      have hmem := (mem_filter.mp he).1
      simp only [matchesExact, Bool.and_eq_true, beq_iff_eq] at hexact
      have hid : e.eventId = n.eventId.value := by tauto
      have hsha : e.payloadSha256 = canonicalJsonHash (.notification n) := by tauto
      have hlane : e.lane = .traderEvent := by tauto
      have hdocument := hhash ((h.complete.hashed e hmem).symm.trans hsha)
      have hpayload : e.payload = .notification n := document_inj hdocument
      refine habsent e hmem ?_ hid
      unfold EventRow.notification?
      rw [hlane, hpayload]
    obtain ⟨taken, htaken, hids⟩ := htaken
    have hmatch : taken ∈ matchingOperatorNotifications s n := by
      refine mem_filter.mpr ⟨htaken, ?_⟩
      rw [Bool.or_eq_true, decide_eq_true_eq, decide_eq_true_eq]
      exact hids
    rcases hlist : matchingOperatorNotifications s n with _ | ⟨first, _ | ⟨second, rest⟩⟩
    · rw [hlist] at hmatch
      cases hmatch
    · exact if_neg (hexact first (by rw [hlist]; exact mem_singleton_self first))
    · rfl

end

/-! ## A trade-ready notification after the exit -/

theorem replay_disposition_lateReady : (step (play step (migrated : Ledger Document) lateReady).2
      (.replayOperatorNotification coreLease (deskNote .exit exitEvent) 5000000000)).1 =
        .ok (.notified .duplicate) ∧
    (step (play step (migrated : Ledger Document) lateReady).2
      (.replayOperatorNotification coreLease (deskNote .tradeReady readyEvent) 5000000000)).1 =
        .ok (.notified .semanticSuppressed) := by
  have hfacts : holdsRole
      (play step (migrated : Ledger Document) lateReady).2 coreLease 5000000000 =
        true ∧
      ((play step (migrated : Ledger Document) lateReady).1[2]?.map (·.2)) =
        some (.ok (.notified .inserted)) ∧
      ((play step (migrated : Ledger Document) lateReady).1[3]?.map (·.2)) =
        some (.ok (.notified .semanticSuppressed)) ∧
      ∀ e ∈ (play step (migrated : Ledger Document) lateReady).2.events.rows,
        e.eventId ≠ "event-ready" ∧ e.semanticId ≠ "event-ready" := by
    decide +kernel
  obtain ⟨hlive, hexit, hready, hfree⟩ := hfacts
  have hrun := run_play step lateReady (migrated : Ledger Document)
  exact ⟨(replay_disposition hrun (mem_play rfl hexit) rfl hlive).1 (by decide),
    ((replay_disposition hrun (mem_play rfl hready) rfl hlive).2 rfl).1 hfree⟩

/-- A set-up of another opportunity under the semantic identity of the suppressed notification. -/
def takeReady : Op Document :=
  .persistOperatorNotification (drawsOf barkKey) coreLease
    { deskNote .setup barkKey with semanticId := readyEvent, opportunityId := barkKey } 3 5000000000

theorem replay_disposition_taken :
    ((play step (migrated : Ledger Document) (lateReady ++ [takeReady])).1.map (·.2)) =
        [.ok (.leased coreLease), .ok (.notified .inserted), .ok (.notified .inserted),
          .ok (.notified .semanticSuppressed), .ok (.notified .inserted)] ∧
      (step (play step (migrated : Ledger Document) (lateReady ++ [takeReady])).2
        (.replayOperatorNotification coreLease (deskNote .tradeReady readyEvent) 6000000000)).1 =
          .error (traderEventCollision (deskNote .tradeReady readyEvent)) := by
  decide +kernel

end SpxSpark.Ledger
