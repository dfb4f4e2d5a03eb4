import SpxSpark.Ledger.Runs

/-!
# Lifecycle — the language of accepted operator notifications

The gate reads what is stored, and an accepted notification is exactly one more stored event, so the
notifications a run accepted are the ones its last state stores, in the same order.
-/

open SpxSpark.Domain SpxSpark.Lib

namespace SpxSpark.Ledger

open List

variable {D : Type}

/-! ## The language -/

/-- `setup* trade_ready? cancel? exit?` -/
def LifecycleWord (roles : List OperatorNotificationRole) : Prop :=
  ∃ (setups : Nat) (ready cancelled exited : Bool),
    roles = List.replicate setups .setup ++ (if ready then [.tradeReady] else []) ++
      (if cancelled then [.cancel] else []) ++ (if exited then [.exit] else [])

/-- What may follow a word: the gate, on roles. -/
structure MayFollow (roles : List OperatorNotificationRole) (role : OperatorNotificationRole) :
    Prop where
  notExited : .exit ∉ roles
  cancelled : .cancel ∈ roles → role = .exit
  ready : .tradeReady ∈ roles → role = .cancel ∨ role = .exit

theorem LifecycleWord.nil : LifecycleWord [] := ⟨0, false, false, false, rfl⟩

theorem LifecycleWord.snoc {roles : List OperatorNotificationRole} {role : OperatorNotificationRole}
    (hw : LifecycleWord roles) (h : MayFollow roles role) : LifecycleWord (roles ++ [role]) := by
  obtain ⟨setups, ready, cancelled, exited, rfl⟩ := hw
  obtain rfl : exited = false := by
    cases exited with
    | false => rfl
    | true => exact absurd (by simp) h.notExited
  have hc : cancelled = true → role = .exit := by
    rintro rfl
    exact h.cancelled (by simp)
  have hr : ready = true → role = .cancel ∨ role = .exit := by
    rintro rfl
    exact h.ready (by simp)
  cases role with
  | setup =>
    obtain rfl : cancelled = false := by simpa using hc
    obtain rfl : ready = false := by simpa using hr
    refine ⟨setups + 1, false, false, false, ?_⟩
    simp [replicate_succ']
  | tradeReady =>
    obtain rfl : cancelled = false := by simpa using hc
    obtain rfl : ready = false := by simpa using hr
    exact ⟨setups, true, false, false, by simp⟩
  | cancel =>
    obtain rfl : cancelled = false := by simpa using hc
    exact ⟨setups, ready, true, false, by simp⟩
  | exit => exact ⟨setups, ready, cancelled, true, by simp⟩

/-- Where a role stands in a word. -/
def lifecycleRank : OperatorNotificationRole → Nat
  | .setup => 0
  | .tradeReady => 1
  | .cancel => 2
  | .exit => 3

theorem LifecycleWord.pairwise {roles : List OperatorNotificationRole} (hw : LifecycleWord roles) :
    roles.Pairwise fun a b => a = .setup ∨ lifecycleRank a < lifecycleRank b := by
  obtain ⟨setups, ready, cancelled, exited, rfl⟩ := hw
  cases ready <;> cases cancelled <;> cases exited <;>
    simp [pairwise_append, lifecycleRank]

/-- Every role but setup occurs at most once, nothing follows an exit, and only an exit follows a
cancel. -/
structure OnceEach (roles : List OperatorNotificationRole) : Prop where
  once : ∀ role, role ≠ .setup → roles.count role ≤ 1
  afterExit : ∀ pre post, roles = pre ++ .exit :: post → post = []
  afterCancel : ∀ pre post, roles = pre ++ .cancel :: post → ∀ role ∈ post, role = .exit

theorem LifecycleWord.onceEach {roles : List OperatorNotificationRole} (hw : LifecycleWord roles) :
    OnceEach roles := by
  have hlater : ∀ pre post role, roles = pre ++ role :: post → ∀ r ∈ post,
      role = .setup ∨ lifecycleRank role < lifecycleRank r := by
    rintro pre post role rfl r hr
    have hsuffix := (pairwise_append.mp hw.pairwise).2.1
    exact (pairwise_cons.mp hsuffix).1 r hr
  refine ⟨?_, ?_, ?_⟩
  · intro role hrole
    obtain ⟨setups, ready, cancelled, exited, rfl⟩ := hw
    simp only [count_append, count_replicate]
    cases role <;> cases ready <;> cases cancelled <;> cases exited <;> simp_all
  · intro pre post h
    refine eq_nil_iff_forall_not_mem.mpr fun r hr => ?_
    have := hlater pre post .exit h r hr
    cases r <;> simp [lifecycleRank] at this
  · intro pre post h r hr
    have := hlater pre post .cancel h r hr
    cases r <;> simp [lifecycleRank] at this ⊢

/-! ## The gate -/

/-- The notifications of one opportunity: generations do not decrease, and the roles within each
generation spell a word. -/
structure Lifecycle (ns : List OperatorNotificationV1) : Prop where
  generations : (ns.map (·.generation)).Pairwise (· ≤ ·)
  words : ∀ g, LifecycleWord ((ns.filter (·.generation = g)).map (·.role))

theorem enforceOperatorLifecycle_persist {s : Ledger D} {n : OperatorNotificationV1}
    (h : enforceOperatorLifecycle s n = .persist) :
    (∀ e ∈ opportunityEvents s n.opportunityId, e.generation ≤ n.generation) ∧
      MayFollow (((opportunityEvents s n.opportunityId).filter
        (·.generation = n.generation)).map (·.role)) n.role := by
  let existing := opportunityEvents s n.opportunityId
  let has (role : OperatorNotificationRole) : Bool :=
    existing.any fun e => e.generation = n.generation && e.role = role
  have hmem : ∀ role, role ∈ (existing.filter (·.generation = n.generation)).map (·.role) →
      has role = true := by
    intro role hrole
    obtain ⟨e, he, rfl⟩ := mem_map.mp hrole
    obtain ⟨hmem, hgen⟩ := mem_filter.mp he
    exact any_eq_true.mpr ⟨e, hmem, by simpa using hgen⟩
  -- The four tests of the gate, in its order.
  have hgate : (existing.any fun e => n.generation < e.generation) = false ∧ has .exit = false ∧
      (has .cancel && n.role != .exit) = false ∧
      (match n.role with
        | .setup | .tradeReady => has .tradeReady = false
        | .cancel => has .cancel = false
        | .exit => True) := by
    change (if (existing.any fun e => n.generation < e.generation) = true then
        OperatorLifecycleDecision.suppress
      else if has .exit = true then .suppress
      else if (has .cancel && n.role != .exit) = true then .suppress
      else match n.role with
        | .setup | .tradeReady => if has .tradeReady = true then .suppress else .persist
        | .cancel => if has .cancel = true then .suppress else .persist
        | .exit => .persist) = .persist at h
    split at h
    · cases h
    split at h
    · cases h
    split at h
    · cases h
    rename_i hlater hexit hcancel
    refine ⟨by simpa using hlater, by simpa using hexit, by simpa using hcancel, ?_⟩
    cases hr : n.role <;> simp only [hr] at h ⊢
    all_goals
      split at h
      · cases h
      · rename_i hno
        simpa using hno
  obtain ⟨hlater, hexit, hcancel, hrole⟩ := hgate
  refine ⟨?_, ?_, ?_, ?_⟩
  · intro e he
    have := any_eq_false.mp hlater e he
    simpa using this
  · intro hin
    rw [hmem _ hin] at hexit
    cases hexit
  · intro hin
    rw [hmem _ hin] at hcancel
    simpa using hcancel
  · intro hin
    have hready := hmem _ hin
    cases hr : n.role <;> simp_all

theorem Lifecycle.snoc {s : Ledger D} {n : OperatorNotificationV1}
    (hl : Lifecycle (opportunityEvents s n.opportunityId))
    (h : enforceOperatorLifecycle s n = .persist) :
    Lifecycle (opportunityEvents s n.opportunityId ++ [n]) := by
  obtain ⟨hgen, hfollow⟩ := enforceOperatorLifecycle_persist h
  refine ⟨?_, ?_⟩
  · rw [map_append, pairwise_append]
    refine ⟨hl.generations, pairwise_singleton _ _, ?_⟩
    intro a ha b hb
    obtain ⟨e, he, rfl⟩ := mem_map.mp ha
    rw [mem_singleton.mp hb]
    exact hgen e he
  · intro g
    have hword := hl.words g
    rw [filter_append, map_append]
    by_cases hg : n.generation = g
    · subst hg
      simpa using hword.snoc hfollow
    · simpa [hg] using hword

/-! ## Runs -/

/-- The notification that one answer of a run accepts. -/
def accepted (event : Op D × Except LedgerError Outcome) : Option OperatorNotificationV1 :=
  match event with
  | (.persistOperatorNotification _ _ n _ _, .ok (.notified .inserted)) => some n
  | _ => none

def notifications (o : Outbox D) : List OperatorNotificationV1 :=
  o.events.filterMap EventRow.notification?

section

variable {now : DateTime} {row : EventRow D} {o o' : Outbox D}

theorem notifications_eq (h : o'.events = o.events) : notifications o' = notifications o := by
  unfold notifications
  rw [h]

theorem Publishes.notifications (h : Publishes now row o o') :
    Ledger.notifications o' = Ledger.notifications o ++ row.notification?.toList := by
  unfold Ledger.notifications
  rw [h.events, filterMap_append]
  cases hn : row.notification? with
  | none => simp [hn]
  | some n => simp [hn]

theorem Republishes.notifications (h : Republishes now row o o') :
    Ledger.notifications o' = Ledger.notifications o := notifications_eq h.events

end

section

variable [CanonicalHash D] {s s' : Ledger D} {now : DateTime}

theorem OffersOther.notifications {document : Option Document}
    (h : OffersOther now document s s') :
    Ledger.notifications (Ledger.outbox s') = Ledger.notifications (Ledger.outbox s) := by
  rcases h.outbox with h | ⟨row, -, hnone, -, hpub | hrep⟩
  · rw [h]
  · rw [hpub.notifications, hnone]
    simp
  · exact hrep.notifications

theorem Notifies.notifications {n : OperatorNotificationV1} {w : OperatorNotificationWrite}
    {o' : Outbox D} (h : Notifies now n s w o') : Ledger.notifications o' =
      Ledger.notifications (Ledger.outbox s) ++ (if w = .inserted then [n] else []) := by
  cases h with
  | inserted _ hrow _ _ hcancels _ hpub =>
    rw [hpub.notifications, notifications_eq (hcancels.events_eq not_cancels_event), hrow]
    rfl
  | duplicate _ _ hrep =>
    rw [hrep.notifications]
    simp
  | suppressed => simp

theorem Notifies.persist {n : OperatorNotificationV1} {o' : Outbox D}
    (h : Notifies now n s .inserted o') : enforceOperatorLifecycle s n = .persist := by
  cases h with
  | inserted hpersist => exact hpersist

/-- What an operation adds to the stored notifications is what its answer accepts, and the gate let
that through. -/
theorem Op.did_notifications {op : Op D} {out : Outcome} (h : op.did s out s') :
    notifications (outbox s') = notifications (outbox s) ++ (accepted (op, .ok out)).toList ∧
      ∀ n, accepted (op, .ok out) = some n → enforceOperatorLifecycle s n = .persist := by
  -- Operations that publish nothing add no event at all.
  have quiet : (∀ e, ¬ op.permits (.event e)) → accepted (op, .ok out) = none →
      notifications (outbox s') = notifications (outbox s) ++ (accepted (op, .ok out)).toList ∧
        ∀ n, accepted (op, .ok out) = some n → enforceOperatorLifecycle s n = .persist := by
    intro hp hnone
    have hsame := notifications_eq ((Op.did_moves 0 h).events_eq hp)
    rw [hnone, hsame]
    simp
  cases op with
  | persistDecision | persistScheduledReport =>
    have hsame := OffersOther.notifications h
    rw [hsame]
    simp [accepted]
  | persistOperatorNotification draws lease n maxAttempts now =>
    obtain ⟨-, w, rfl, hw⟩ := h
    rw [hw.notifications]
    cases w with
    | inserted => exact ⟨rfl, fun m hm => Option.some.inj hm ▸ hw.persist⟩
    | duplicate | semanticSuppressed => simp [accepted]
  | _ => exact quiet (by simp [Op.permits, ShiftsBy]) rfl

end

section

variable [DecidableEq D] [CanonicalHash D] {s : Ledger D}

/-- **The lifecycle language.** Of the notifications a run accepted for one opportunity, the
generations do not decrease, and within one generation the roles spell a word of
`setup* trade_ready? cancel? exit?`. -/
theorem operator_lifecycle {log : List (Op D × Except LedgerError Outcome)}
    (h : LedgerRun anyStep migrated log s) (opportunityId : Token) :
    let ns := (log.filterMap accepted).filter (·.opportunityId = opportunityId)
    (ns.map (·.generation)).Pairwise (· ≤ ·) ∧
      ∀ g, LifecycleWord ((ns.filter (·.generation = g)).map (·.role)) ∧
        OnceEach ((ns.filter (·.generation = g)).map (·.role)) := by
  have hrun : log.filterMap accepted = notifications (outbox s) ∧
      ∀ o, Lifecycle (opportunityEvents s o) := by
    refine h.invariant_log (I := fun log s => log.filterMap accepted = notifications (outbox s) ∧
      ∀ o, Lifecycle (opportunityEvents s o)) ?_ ?_
    · refine ⟨rfl, fun o => ⟨List.Pairwise.nil, fun g => .nil⟩⟩
    · rintro log s op ⟨hlog, hlife⟩ -
      rcases hs : step s op with ⟨e | out, s'⟩
      · rw [step_error hs, filterMap_append, hlog]
        exact ⟨by simp [accepted], hlife⟩
      · obtain ⟨hadds, hgate⟩ := Op.did_notifications (step_did hs)
        refine ⟨?_, fun o => ?_⟩
        · rw [filterMap_append, hlog, hadds]
          cases ha : accepted (op, (.ok out : Except LedgerError Outcome)) <;> simp [ha]
        · have hevents : opportunityEvents s' o = opportunityEvents s o ++
              (accepted (op, .ok out)).toList.filter (·.opportunityId = o) := by
            change (notifications (outbox s')).filter (·.opportunityId = o) = _
            rw [hadds, filter_append]
            rfl
          rw [hevents]
          cases ha : accepted (op, (.ok out : Except LedgerError Outcome)) with
          | none => simpa using hlife o
          | some n =>
            by_cases ho : n.opportunityId = o
            · subst ho
              simpa using (hlife n.opportunityId).snoc (hgate n ha)
            · simpa [ho] using hlife o
  obtain ⟨hlog, hlife⟩ := hrun
  have hstored : (log.filterMap accepted).filter (·.opportunityId = opportunityId) =
      opportunityEvents s opportunityId := by
    rw [hlog]
    rfl
  intro ns
  simp only [ns, hstored]
  exact ⟨(hlife opportunityId).generations, fun g =>
    ⟨(hlife opportunityId).words g, ((hlife opportunityId).words g).onceEach⟩⟩

end

/-! ## An opportunity that is set up and exited -/

def opportunityOne : Token := ⟨"opportunity-1", by decide, by decide, by decide⟩
def setupEvent : Token := ⟨"event-setup", by decide, by decide, by decide⟩
def readyEvent : Token := ⟨"event-ready", by decide, by decide, by decide⟩
def exitEvent : Token := ⟨"event-exit", by decide, by decide, by decide⟩
def barkKey : Token := ⟨"bark", by decide, by decide, by decide⟩

def deskBody : String :=
  "## Desk View\nup\n## Execution\nnone\n## Risk\nlow\n## Targets\nnone\n## Data Quality\nlive"

/-- A notification of the opportunity's first generation, for one target. -/
def deskNote (role : OperatorNotificationRole) (eventId : Token) : OperatorNotificationV1 where
  schemaVersion := operatorNotificationSchemaVersion
  eventId := eventId
  semanticId := eventId
  opportunityId := opportunityOne
  generation := 1
  role := role
  occurredAt := 1500000000
  expiresAt := 60000000000
  title := opportunityOne
  body := deskBody
  targets := [⟨barkKey, .bark⟩]
  automaticOrdering := false

def coreLease : OwnerLease :=
  { role := .core, ownerId := "core-process-0001", generation := 1, leaseUntil := 100000000000 }

/-- Draws that use one identifier throughout. -/
def drawsOf (id : Uuid) : Draws := ⟨id, id, id, fun _ => id⟩

/-- A trade-ready notification that arrives after the exit. -/
def lateReady : List (Op Document) :=
  [.acquireOwner .core "core-process-0001" 1000000000 99000000000,
    .persistOperatorNotification (drawsOf setupEvent) coreLease (deskNote .setup setupEvent) 3
      2000000000,
    .persistOperatorNotification (drawsOf exitEvent) coreLease (deskNote .exit exitEvent) 3
      3000000000,
    .persistOperatorNotification (drawsOf readyEvent) coreLease (deskNote .tradeReady readyEvent) 3
      4000000000]

theorem operator_lifecycle_lateReady :
    let ns := ((play step (migrated : Ledger Document) lateReady).1.filterMap accepted).filter
      (·.opportunityId = opportunityOne)
    ns.map (·.role) = [.setup, .exit] ∧ (ns.map (·.generation)).Pairwise (· ≤ ·) :=
  ⟨by decide +kernel,
    (operator_lifecycle (Run.play (allowed_anyStep lateReady migrated)) opportunityOne).1⟩

end SpxSpark.Ledger
