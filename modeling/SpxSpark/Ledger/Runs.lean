import SpxSpark.Ledger.Transport
import SpxSpark.Lib.Run

/-!
# Runs — every operation of the ledger, and the runs they make

The core, report and delivery owners and the operator share one database, and each operation is one
immediate transaction, so every interleaving of them is a serial run of `step`.
-/

open SpxSpark.Domain SpxSpark.Lib

namespace SpxSpark.Ledger

open Txn

variable {D : Type}

/-! ## Operations -/

inductive Op (D : Type)
  | acquireOwner (role : OwnerRole) (ownerId : String) (now : DateTime) (duration : TimeDelta)
  | renewOwner (lease : OwnerLease) (now : DateTime) (duration : TimeDelta)
  | refreshOwner (lease : OwnerLease) (now : DateTime) (duration : TimeDelta)
  | releaseOwner (lease : OwnerLease)
  | recordIngressOnce (lease : OwnerLease) (messageId : Token) (payloadSha256 : D)
      (observedAt : DateTime)
  | checkIngress (lease : OwnerLease) (messageId : Token) (payloadSha256 : D) (now : DateTime)
  | persistDecision (lease : OwnerLease) (decision : StrategyDecisionV1)
      (intent : Option NotificationIntentV1) (now : DateTime)
  | persistScheduledReport (lease : OwnerLease) (intent : NotificationIntentV2) (now : DateTime)
  | persistOperatorNotification (draws : Draws) (lease : OwnerLease) (n : OperatorNotificationV1)
      (maxAttempts : Nat) (now : DateTime)
  | replayOperatorNotification (lease : OwnerLease) (n : OperatorNotificationV1) (now : DateTime)
  | cancelEventAt (draws : Draws) (lease : OwnerLease) (eventId reasonCode : String)
      (cancelledAt processingAt : DateTime)
  | recoverStaleClaims (draws : Draws) (lease : OwnerLease) (now : DateTime)
  | claimNext (draws : Draws) (lease : OwnerLease) (now : DateTime) (claimDuration : TimeDelta)
  | beginTransport (draws : Draws) (lease : OwnerLease) (claimed : ClaimedDelivery)
      (now : DateTime) (transportLeaseDuration : TimeDelta)
  | rejectBeforeTransport (draws : Draws) (lease : OwnerLease) (handle : ClaimHandle)
      (errorCode : String) (now : DateTime)
  | settle (draws : Draws) (lease : OwnerLease) (handle : ClaimHandle) (attemptId : String)
      (settlement : Settlement) (now : DateTime)
  | acknowledgeFailure (draws : Draws) (targetId actor reasonCode : String) (now : DateTime)
  | replayFailure (draws : Draws) (targetId actor reasonCode : String) (now : DateTime)

/-- The clock an operation reads. -/
def Op.now? : Op D → Option DateTime
  | .releaseOwner _ => none
  | .acquireOwner _ _ now _ | .renewOwner _ now _ | .refreshOwner _ now _
  | .recordIngressOnce _ _ _ now | .checkIngress _ _ _ now | .persistDecision _ _ _ now
  | .persistScheduledReport _ _ now | .persistOperatorNotification _ _ _ _ now
  | .replayOperatorNotification _ _ now | .cancelEventAt _ _ _ _ _ now
  | .recoverStaleClaims _ _ now | .claimNext _ _ now _ | .beginTransport _ _ _ now _
  | .rejectBeforeTransport _ _ _ _ now | .settle _ _ _ _ _ now | .acknowledgeFailure _ _ _ _ now
  | .replayFailure _ _ _ _ now => some now

/-- What an operation that returned answered. -/
inductive Outcome
  | done
  | leased (lease : OwnerLease)
  | ingress (write : IngressWrite)
  | checked (check : IngressCheck)
  | persisted (write : PersistWrite)
  | notified (write : OperatorNotificationWrite)
  | recovered (summary : RecoverySummary)
  | claimed (delivery : Option ClaimedDelivery)
  | began (transport : BeginTransport)
  | settled (write : SettlementWrite)
  | acted (write : OperatorWrite)
  deriving DecidableEq

section

variable [DecidableEq D] [CanonicalHash D]

def Op.run : Op D → LedgerM D Outcome
  | .acquireOwner role ownerId now duration => do
      return .leased (← Ledger.acquireOwner role ownerId now duration)
  | .renewOwner lease now duration => do return .leased (← Ledger.renewOwner lease now duration)
  | .refreshOwner lease now duration => do return .leased (← Ledger.refreshOwner lease now duration)
  | .releaseOwner lease => do
      Ledger.releaseOwner lease
      return .done
  | .recordIngressOnce lease messageId payloadSha256 observedAt => do
      return .ingress (← Ledger.recordIngressOnce lease messageId payloadSha256 observedAt)
  | .checkIngress lease messageId payloadSha256 now => do
      return .checked (← Ledger.checkIngress lease messageId payloadSha256 now)
  | .persistDecision lease decision intent now => do
      return .persisted (← Ledger.persistDecision lease decision intent now)
  | .persistScheduledReport lease intent now => do
      return .persisted (← Ledger.persistScheduledReport lease intent now)
  | .persistOperatorNotification draws lease n maxAttempts now => do
      return .notified (← Ledger.persistOperatorNotification draws lease n maxAttempts now)
  | .replayOperatorNotification lease n now => do
      return .notified (← Ledger.replayOperatorNotification lease n now)
  | .cancelEventAt draws lease eventId reasonCode cancelledAt processingAt => do
      return .persisted
        (← Ledger.cancelEventAt draws lease eventId reasonCode cancelledAt processingAt)
  | .recoverStaleClaims draws lease now => do
      return .recovered (← Ledger.recoverStaleClaims draws lease now)
  | .claimNext draws lease now claimDuration => do
      return .claimed (← Ledger.claimNext draws lease now claimDuration)
  | .beginTransport draws lease claimed now transportLeaseDuration => do
      return .began (← Ledger.beginTransport draws lease claimed now transportLeaseDuration)
  | .rejectBeforeTransport draws lease handle errorCode now => do
      Ledger.rejectBeforeTransport draws lease handle errorCode now
      return .done
  | .settle draws lease handle attemptId settlement now => do
      return .settled (← Ledger.settle draws lease handle attemptId settlement now)
  | .acknowledgeFailure draws targetId actor reasonCode now => do
      return .acted (← Ledger.acknowledgeFailure draws targetId actor reasonCode now)
  | .replayFailure draws targetId actor reasonCode now => do
      Ledger.replayFailure draws targetId actor reasonCode now
      return .done

/-- One operation, atomically. -/
def step (s : Ledger D) (op : Op D) : Except LedgerError Outcome × Ledger D := commit op.run s

abbrev LedgerRun (ok : Ledger D → Op D → Prop) :
    Ledger D → List (Op D × Except LedgerError Outcome) → Ledger D → Prop :=
  Run step ok

variable {op : Op D}

theorem step_error {s s' : Ledger D} {e : LedgerError} (h : step s op = (.error e, s')) :
    s' = s := (commit_error h).2

end

/-! ## Owners -/

section

variable {s s' : Ledger D} {now : DateTime}

/-- The generation stored for a role; zero before its first owner. -/
def generationOf (s : Ledger D) (role : OwnerRole) : Int :=
  (s.runtimeOwners role).elim 0 (·.val.generation)

/-- One owner row is written, with a generation that is no lower, and nothing else changes. The row
dates from the acquisition it replaces, or from `now`. -/
structure WritesOwner (role : OwnerRole) (now : DateTime) (row : StoredOwner)
    (s s' : Ledger D) : Prop where
  written : s' = { s with runtimeOwners := Function.update s.runtimeOwners role (some row) }
  generation : generationOf s role ≤ row.val.generation
  acquiredAt : row.val.acquiredAtUs = micros now ∨
    ∃ old, s.runtimeOwners role = some old ∧ row.val.acquiredAtUs = old.val.acquiredAtUs

/-- The stored lease of a role cannot be kept by `ownerId` at `now`: it was released, it ended, or
it is another owner's. -/
def LeaseOver (s : Ledger D) (role : OwnerRole) (ownerId : String) (now : DateTime) : Prop :=
  ∃ old, s.runtimeOwners role = some old ∧
    (old.val.active = false ∨ old.val.leaseUntilUs ≤ micros now ∨ old.val.ownerId ≠ ownerId)

/-- An owner row is written, and the lease in the answer is for it; its generation is raised when
the stored lease was over for its owner. -/
structure Leases (role : OwnerRole) (now : DateTime) (lease : OwnerLease) (s s' : Ledger D) :
    Prop where
  forRole : lease.role = role
  raised : LeaseOver s role lease.ownerId now → generationOf s role < lease.generation
  row : ∃ row, lease.generation = row.val.generation ∧ WritesOwner role now row s s'

variable {role : OwnerRole}

theorem WritesOwner.outbox {row : StoredOwner} (h : WritesOwner role now row s s') :
    outbox s' = outbox s := by
  rw [h.written]
  rfl

@[simp]
theorem wp_putOwner {Q : Unit → Ledger D → Prop} {E : LedgerError → Prop} {row : OwnerRow} :
    wp (putOwner role row) Q E s ↔
      (∀ h : row.check = true,
        Q () { s with runtimeOwners := Function.update s.runtimeOwners role (some ⟨row, h⟩) }) ∧
        (row.check = false → E (.sqlite (.constraint .check))) := by
  unfold putOwner
  by_cases h : row.check = true
  · simp [h]
  · simp [h]

theorem issuedGeneration_ok {ownerId : String} {g : Int}
    (h : issuedGeneration role ownerId now (s.runtimeOwners role) = .ok g) :
    generationOf s role ≤ g ∧ (LeaseOver s role ownerId now → generationOf s role < g) := by
  unfold issuedGeneration at h
  cases hr : s.runtimeOwners role with
  | none =>
    rw [hr] at h
    cases h
    have hz : generationOf s role = 0 := by simp [generationOf, hr]
    exact ⟨by omega, fun _ => by omega⟩
  | some r =>
    have hgen : generationOf s role = r.val.generation := by simp [generationOf, hr]
    simp only [hr] at h
    split at h
    · rename_i hlive
      cases h
      refine ⟨le_of_eq hgen, ?_⟩
      rintro ⟨old, hold, hover⟩
      obtain rfl : r = old := Option.some.inj (hr.symm.trans hold)
      obtain ⟨hactive, howner, huntil⟩ := hlive
      rcases hover with h | h | h
      · rw [hactive] at h
        cases h
      · omega
      · exact absurd howner h
    · split at h
      · obtain ⟨-, h⟩ := require_bind_ok.mp h
        cases h
        exact ⟨by omega, fun _ => by omega⟩
      · cases h

variable {duration : TimeDelta}

theorem acquireOwner_spec {ownerId : String} :
    wp (acquireOwner role ownerId now duration) (fun lease s' => Leases role now lease s s')
      (fun _ => True) s := by
  simp only [acquireOwner, wp_bind, wp_ensure, wp_ofOption, wp_get, wp_ofExcept, wp_putOwner,
    wp_pure, implies_true, and_true]
  intro _ until' _ _ g hg hcheck
  obtain ⟨hle, hlt⟩ := issuedGeneration_ok hg
  exact ⟨rfl, hlt, ⟨_, hcheck⟩, rfl, rfl, hle, .inl rfl⟩

variable {lease : OwnerLease}

theorem renewOwner_spec :
    wp (renewOwner lease now duration)
      (fun lease' s' => generationOf s lease.role = lease.generation ∧
        Leases lease.role now lease' s s') (fun _ => True) s := by
  simp only [renewOwner, wp_bind, wp_ensure, wp_ofOption, wp_get, wp_queryRow, wp_putOwner, wp_pure,
    implies_true, and_true]
  intro until' _ hlease row hrow hcheck
  obtain ⟨r, hr, howner, hgen, hactive, hlive⟩ := holdsRole_row hlease
  obtain rfl : r = row := Option.some.inj (hr.symm.trans hrow)
  have hstored : generationOf s lease.role = r.val.generation := by simp [generationOf, hr]
  refine ⟨hstored.trans hgen, rfl, ?_, ⟨_, hcheck⟩, hgen.symm, rfl, le_of_eq hstored,
    .inr ⟨r, hr, rfl⟩⟩
  -- A lease that still holds its role is not over.
  rintro ⟨old, hold, hover⟩
  obtain rfl : r = old := Option.some.inj (hr.symm.trans hold)
  rcases hover with h | h | h
  · rw [hactive] at h
    cases h
  · omega
  · exact absurd howner h

theorem refreshOwner_spec :
    wp (refreshOwner lease now duration)
      (fun lease' s' => Leases lease.role now lease' s s') (fun _ => True) s := by
  unfold refreshOwner
  rw [wp_ite]
  refine ⟨fun _ => ?_, fun _ => ?_⟩
  · exact wp_mono (fun _ _ h => h.2) (fun _ _ => trivial) renewOwner_spec
  · exact acquireOwner_spec

theorem releaseOwner_spec : wp (releaseOwner lease)
      (fun _ s' => generationOf s lease.role = lease.generation ∧
        ∃ row, ∀ now, WritesOwner lease.role now row s s') (fun _ => True) s := by
  simp only [releaseOwner, wp_bind, wp_ensure, wp_get, wp_queryRow, wp_putOwner, implies_true,
    and_true]
  intro hany row hrow hcheck
  rw [hrow] at hany
  simp only [Option.any_some, Bool.and_eq_true, beq_iff_eq] at hany
  have hstored : generationOf s lease.role = row.val.generation := by simp [generationOf, hrow]
  exact ⟨hstored.trans hany.1.2, ⟨_, hcheck⟩, fun _ => ⟨rfl, le_of_eq hstored,
    .inr ⟨row, hrow, rfl⟩⟩⟩

end

/-! ## What each operation does -/

section

variable [DecidableEq D] [CanonicalHash D] {s s' : Ledger D}

/-- Neither the outbox nor the owners change. -/
structure Untouched (s s' : Ledger D) : Prop where
  outbox : outbox s' = outbox s
  owners : s'.runtimeOwners = s.runtimeOwners

omit [CanonicalHash D] in
theorem recordIngressOnce_spec {messageId : Token} {payloadSha256 : D} {observedAt : DateTime} :
    wp (recordIngressOnce lease messageId payloadSha256 observedAt) (fun _ s' => Untouched s s')
      (fun _ => True) s := by
  simp only [recordIngressOnce, wp_bind, wp_requireOwner, wp_insertOrIgnoreInto, wp_ite, wp_pure,
    wp_get, wp_queryRow, wp_ensure]
  have hsame : ∀ t, Untouched s { s with ingressMessages := t } := fun _ => ⟨rfl, rfl⟩
  exact ⟨fun _ _ => ⟨fun _ => hsame _, fun _ => ⟨fun _ _ => ⟨fun _ => hsame _, fun _ => trivial⟩,
    fun _ => trivial⟩⟩, fun _ => trivial, fun _ _ => trivial⟩

omit [CanonicalHash D] in
theorem checkIngress_spec {messageId : Token} {payloadSha256 : D} {now : DateTime} :
    wp (checkIngress lease messageId payloadSha256 now) (fun _ s' => Untouched s s')
      (fun _ => True) s := by
  simp only [checkIngress, wp_bind, wp_requireOwner, wp_get]
  refine ⟨fun _ _ => ?_, fun _ => trivial, fun _ _ => trivial⟩
  split
  · exact ⟨rfl, rfl⟩
  · simp only [wp_bind, wp_ensure, wp_pure]
    exact ⟨fun _ => ⟨rfl, rfl⟩, fun _ => trivial⟩

theorem replayOperatorNotification_spec {n : OperatorNotificationV1} {now : DateTime} :
    wp (replayOperatorNotification lease n now) (fun _ s' => Untouched s s')
      (fun _ => True) s := by
  simp only [replayOperatorNotification, wp_bind, wp_liftDomain, wp_requireOwner, wp_get]
  refine ⟨fun _ _ => ⟨fun _ _ => ?_, fun _ => trivial, fun _ _ => trivial⟩, fun _ _ => trivial⟩
  split
  · exact ⟨rfl, rfl⟩
  · simp only [wp_bind, wp_ensure, wp_pure]
    exact ⟨fun _ => ⟨rfl, rfl⟩, fun _ => trivial⟩
  · trivial

/-- What an operation that returned `out` from `s` has done when it left `s'`. -/
def Op.did (op : Op D) (s : Ledger D) (out : Outcome) (s' : Ledger D) : Prop :=
  match op with
  | .acquireOwner role _ now _ => ∃ lease, out = .leased lease ∧ Leases role now lease s s'
  | .renewOwner lease now _ | .refreshOwner lease now _ =>
    ∃ lease', out = .leased lease' ∧ Leases lease.role now lease' s s'
  | .releaseOwner lease => ∃ row, ∀ now, WritesOwner lease.role now row s s'
  | .recordIngressOnce .. | .checkIngress .. | .replayOperatorNotification .. => Untouched s s'
  | .persistDecision _ _ intent now => OffersOther now (intent.map .intent) s s'
  | .persistScheduledReport _ intent now => OffersOther now (some (.report intent)) s s'
  | .persistOperatorNotification _ _ n _ now =>
    s'.runtimeOwners = s.runtimeOwners ∧ ∃ w, out = .notified w ∧ Notifies now n s w (outbox s')
  | .cancelEventAt _ _ eventId _ _ processingAt =>
    s'.runtimeOwners = s.runtimeOwners ∧
      CancelsEvent processingAt eventId (outbox s) (outbox s')
  | .recoverStaleClaims _ _ now => Advance now (ShiftsBy [.requeue, .giveUp]) s s'
  | .claimNext _ _ now _ => Advance now (ShiftsBy [.expire, .claim]) s s'
  | .beginTransport _ _ claimed now _ =>
    s'.runtimeOwners = s.runtimeOwners ∧ ∃ b, out = .began b ∧
      Begins now claimed.handle.targetId (outbox s) b (outbox s')
  | .rejectBeforeTransport _ _ _ _ now => Advance now (ShiftsBy [.reject]) s s'
  | .settle _ _ handle _ settlement now =>
    s'.runtimeOwners = s.runtimeOwners ∧ ∃ status w, dispositionOf status = .ok w ∧
      (status = .pending → retriesTarget s handle.targetId settlement = true) ∧
      Move now (.shift handle.targetId (.settle status)) (outbox s) (outbox s')
  | .acknowledgeFailure _ targetId _ _ now =>
    Advance now (fun l => l = .shift targetId .acknowledge) s s'
  | .replayFailure _ targetId _ _ now => Advance now (fun l => l = .shift targetId .replay) s s'

theorem Op.run_did (op : Op D) (s : Ledger D) :
    wp op.run (fun out s' => op.did s out s') (fun _ => True) s := by
  cases op <;> simp only [Op.run, wp_bind, wp_pure, Op.did]
  case acquireOwner =>
    exact wp_mono (fun lease _ h => ⟨lease, rfl, h⟩) (fun _ _ => trivial) acquireOwner_spec
  case renewOwner =>
    exact wp_mono (fun lease _ h => ⟨lease, rfl, h.2⟩) (fun _ _ => trivial) renewOwner_spec
  case refreshOwner =>
    exact wp_mono (fun lease _ h => ⟨lease, rfl, h⟩) (fun _ _ => trivial) refreshOwner_spec
  case releaseOwner =>
    exact wp_mono (fun _ _ h => h.2) (fun _ _ => trivial) releaseOwner_spec
  case recordIngressOnce => exact recordIngressOnce_spec
  case checkIngress => exact checkIngress_spec
  case replayOperatorNotification => exact replayOperatorNotification_spec
  case persistDecision => exact persistDecision_spec
  case persistScheduledReport => exact persistScheduledReport_spec
  case persistOperatorNotification =>
    exact wp_mono (fun w _ h => ⟨h.1, w, rfl, h.2⟩) (fun _ _ => trivial)
      persistOperatorNotification_spec
  case cancelEventAt => exact wp_mono (fun _ _ h => h) (fun _ _ => trivial) cancelEventAt_spec
  case recoverStaleClaims =>
    exact wp_mono (fun _ _ h => h) (fun _ _ => trivial) recoverStaleClaims_spec
  case claimNext => exact wp_mono (fun _ _ h => h) (fun _ _ => trivial) claimNext_spec
  case beginTransport =>
    exact wp_mono (fun b _ h => ⟨h.1, b, rfl, h.2.2⟩) (fun _ _ => trivial) beginTransport_spec
  case rejectBeforeTransport =>
    exact wp_mono (fun _ _ h => h.2) (fun _ _ => trivial) rejectBeforeTransport_spec
  case settle =>
    refine wp_mono ?_ (fun _ _ => trivial) settle_spec
    rintro w s' ⟨ho, -, status, hw, hretry, hm⟩
    exact ⟨ho, status, w, hw, hretry, hm⟩
  case acknowledgeFailure =>
    exact wp_mono (fun _ _ h => h) (fun _ _ => trivial) acknowledgeFailure_spec
  case replayFailure => exact wp_mono (fun _ _ h => h) (fun _ _ => trivial) replayFailure_spec

theorem step_did {out : Outcome} (h : step s op = (.ok out, s')) : op.did s out s' :=
  wp_ok (op.run_did s) (commit_ok h)

theorem step_cases (s : Ledger D) (op : Op D) :
    (step s op).2 = s ∨ ∃ out, op.did s out (step s op).2 := by
  rcases hs : step s op with ⟨e | out, s'⟩
  · exact .inl (step_error hs)
  · exact .inr ⟨out, step_did hs⟩

end

/-! ## The moves of an operation -/

section

variable {now : DateTime}

/-- An event or a target is new. -/
def Publication (l : Label D) : Prop := (∃ e, l = .event e) ∨ ∃ t, l = .target t

/-- The labels of the moves an operation is made of. -/
def Op.permits : Op D → Label D → Prop
  | .persistDecision .., l | .persistScheduledReport .., l => Publication l
  | .persistOperatorNotification .., l => Publication l ∨ ShiftsBy [.cancel] l
  | .cancelEventAt _ _ eventId _ _ _, l =>
    (∃ c, l = .fence c ∧ c.eventId = eventId) ∨ ShiftsBy [.cancel] l
  | .recoverStaleClaims .., l => ShiftsBy [.requeue, .giveUp] l
  | .claimNext .., l => ShiftsBy [.expire, .claim] l
  | .beginTransport _ _ claimed _ _, l =>
    ∃ k, l = .shift claimed.handle.targetId k ∧ (k = .cancel ∨ k = .expire ∨ ∃ a, k = .start a)
  | .rejectBeforeTransport .., l => ShiftsBy [.reject] l
  | .settle _ _ handle _ _ _, l => ∃ status, l = .shift handle.targetId (.settle status)
  | .acknowledgeFailure _ targetId _ _ _, l => l = .shift targetId .acknowledge
  | .replayFailure _ targetId _ _ _, l => l = .shift targetId .replay
  | _, _ => False

theorem Cancels.shiftsBy {ids : List String} {l : Label D} (h : Cancels ids l) :
    ShiftsBy [.cancel] l := by
  obtain ⟨id, -, rfl⟩ := h
  exact ⟨id, .cancel, by simp, rfl⟩

theorem AddsTargetOf.publication {eventId : String} {l : Label D} (h : AddsTargetOf eventId l) :
    Publication l := by
  obtain ⟨t, rfl, -⟩ := h
  exact .inr ⟨t, rfl⟩

theorem Offers.moves {row : EventRow D} {o o' : Outbox D}
    (h : Offers now row o o') : Moves now Publication o o' := by
  rcases h with h | h
  · refine h.moves.mono ?_
    rintro l (rfl | hl)
    · exact .inl ⟨row, rfl⟩
    · exact hl.publication
  · exact h.moves.mono fun l hl => hl.publication

theorem Begins.moves {targetId : String} {b : BeginTransport} {o o' : Outbox D}
    (h : Begins now targetId o b o') :
    Moves now (fun l => ∃ k, l = .shift targetId k ∧
      (k = .cancel ∨ k = .expire ∨ ∃ a, k = .start a))
      o o' := by
  cases h with
  | @started a _ hm => exact .single hm ⟨_, rfl, .inr (.inr ⟨a, rfl⟩)⟩
  | cancelled hm => exact .single hm ⟨_, rfl, .inl rfl⟩
  | expired hm => exact .single hm ⟨_, rfl, .inr (.inl rfl)⟩
  | cancelledBefore => exact .refl _
  | expiredBefore => exact .refl _

end

section

variable [CanonicalHash D] {s s' : Ledger D} {now : DateTime}

theorem OffersOther.moves {document : Option Document} (h : OffersOther now document s s') :
    Moves now Publication (Ledger.outbox s) (Ledger.outbox s') := by
  rcases h.outbox with h | ⟨row, -, -, -, h⟩
  · rw [h]
    exact .refl _
  · exact h.moves

theorem Notifies.moves {n : OperatorNotificationV1}
    {w : OperatorNotificationWrite} {o' : Outbox D} (h : Notifies now n s w o') :
    Moves now (fun l => Publication l ∨ ShiftsBy [.cancel] l) (Ledger.outbox s) o' := by
  cases h with
  | inserted _ _ _ _ hcancels _ hpub =>
    refine (hcancels.mono fun l hl => .inr hl.shiftsBy).trans ?_
    exact (Offers.moves (.inl hpub)).mono fun l hl => .inl hl
  | duplicate _ _ hrep => exact (Offers.moves (.inr hrep)).mono fun l hl => .inl hl
  | suppressed => exact .refl _

/-- **Refinement.** What an operation does to the ledger is a path of moves of the outbox, with
the labels of the operation. -/
theorem Op.did_moves {op : Op D} {out : Outcome} (clock : DateTime) (h : op.did s out s') :
    Moves (op.now?.getD clock) op.permits (outbox s) (outbox s') := by
  cases op <;> simp only [Op.did] at h
  case acquireOwner | renewOwner | refreshOwner =>
    obtain ⟨lease, -, -, -, row, -, hw⟩ := h
    rw [hw.outbox]
    exact .refl _
  case releaseOwner =>
    obtain ⟨row, hw⟩ := h
    rw [(hw clock).outbox]
    exact .refl _
  case recordIngressOnce | checkIngress | replayOperatorNotification =>
    rw [h.outbox]
    exact .refl _
  case persistDecision | persistScheduledReport => exact h.moves
  case persistOperatorNotification =>
    obtain ⟨-, w, -, hw⟩ := h
    exact hw.moves
  case cancelEventAt =>
    refine h.2.moves.mono ?_
    rintro l (hfence | ⟨ids, hcancel⟩)
    · exact .inl hfence
    · exact .inr hcancel.shiftsBy
  case beginTransport =>
    obtain ⟨-, b, -, hb⟩ := h
    exact hb.moves
  case settle =>
    obtain ⟨-, status, w, -, -, hm⟩ := h
    exact .single hm ⟨status, rfl⟩
  all_goals exact h.moves

end

/-! ## Runs with a clock -/

/-- A ledger and the latest time an operation has read. -/
structure Timed (D : Type) where
  ledger : Ledger D
  clock : DateTime

section

variable [DecidableEq D] [CanonicalHash D]

def timedStep (t : Timed D) (op : Op D) : Except LedgerError Outcome × Timed D :=
  ((step t.ledger op).1, ⟨(step t.ledger op).2, op.now?.getD t.clock⟩)

theorem timedStep_untimed {t t' : Timed D} {out : Except LedgerError Outcome}
    (h : timedStep t op = (out, t')) : step t.ledger op = (out, t'.ledger) := by
  obtain ⟨hout, hstate⟩ := Prod.mk.inj h
  exact Prod.ext hout (congrArg Timed.ledger hstate)

/-- The clock does not go back. -/
def Forward (t : Timed D) (op : Op D) : Prop := t.clock ≤ op.now?.getD t.clock

instance (t : Timed D) (op : Op D) : Decidable (Forward t op) := by
  unfold Forward
  infer_instance

/-- A run in which the clock does not go back, and whose steps all meet `ok`. -/
abbrev TimedRun (ok : Ledger D → Op D → Prop) :
    Timed D → List (Op D × Except LedgerError Outcome) → Timed D → Prop :=
  Run timedStep fun t op => Forward t op ∧ ok t.ledger op

theorem TimedRun.untimed {ok : Ledger D → Op D → Prop} {t₀ t : Timed D}
    {log : List (Op D × Except LedgerError Outcome)} (h : TimedRun ok t₀ log t) :
    LedgerRun ok t₀.ledger log t.ledger :=
  h.map (·.ledger) (fun _ _ => rfl) fun _ _ hok => hok.2

end

end SpxSpark.Ledger
