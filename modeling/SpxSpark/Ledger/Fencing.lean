import SpxSpark.Ledger.Runs

/-!
# Fencing — what a lease that was superseded can still do

The generation of a role only grows. Every operation that carries a lease returns only while the
lease's generation is the stored one, and every operation that carries a claim only while the claim
and the lease agree, so a lower generation than one that was issued gets an error.
-/

open SpxSpark.Domain SpxSpark.Lib

namespace SpxSpark.Ledger

open Txn List

variable {D : Type}

/-! ## Leases and claims in hand -/

/-- The lease an operation must hold; acquiring and the operator need none, and a refresh takes a
new one when its own is over. -/
def Op.lease? : Op D → Option OwnerLease
  | .acquireOwner .. | .refreshOwner .. | .acknowledgeFailure .. | .replayFailure .. => none
  | .renewOwner lease _ _ | .releaseOwner lease | .recordIngressOnce lease _ _ _
  | .checkIngress lease _ _ _ | .persistDecision lease _ _ _ | .persistScheduledReport lease _ _
  | .persistOperatorNotification _ lease _ _ _ | .replayOperatorNotification lease _ _
  | .cancelEventAt _ lease _ _ _ _ | .recoverStaleClaims _ lease _ | .claimNext _ lease _ _
  | .beginTransport _ lease _ _ _ | .rejectBeforeTransport _ lease _ _ _
  | .settle _ lease _ _ _ _ => some lease

/-- The claim an operation carries. -/
def Op.claim? : Op D → Option ClaimHandle
  | .beginTransport _ _ claimed _ _ => some claimed.handle
  | .rejectBeforeTransport _ _ handle _ _ | .settle _ _ handle _ _ _ => some handle
  | _ => none

/-! ## The owner check -/

section

variable {s : Ledger D} {lease : OwnerLease} {expected : OwnerRole} {now : DateTime}
  {α β : Type}

/-- From `s`, the program returns only if the lease is for the expected role and has its stored
generation. -/
def DemandsOwner (s : Ledger D) (lease : OwnerLease) (expected : OwnerRole) (m : LedgerM D α) :
    Prop :=
  wp m (fun _ _ => lease.role = expected ∧ generationOf s lease.role = lease.generation)
    (fun _ => True) s

theorem DemandsOwner.first {f : Unit → LedgerM D β} :
    DemandsOwner s lease expected (requireOwnerInTransaction lease expected now >>= f) := by
  unfold DemandsOwner
  rw [wp_bind, wp_requireOwner]
  refine ⟨fun hrole hlease => ?_, fun _ => trivial, fun _ _ => trivial⟩
  obtain ⟨r, hr, -, hgen, -, -⟩ := holdsRole_row hlease
  have hstored : generationOf s lease.role = lease.generation := by
    simpa [generationOf, hr] using hgen
  -- Whatever runs after the check, the fact is about the state before it.
  unfold wp
  split
  · exact ⟨hrole, hstored⟩
  · trivial

variable {f : α → LedgerM D β}

theorem DemandsOwner.after {m : LedgerM D α} (hm : wp m (fun _ t => t = s) (fun _ => True) s)
    (hf : ∀ a, DemandsOwner s lease expected (f a)) : DemandsOwner s lease expected (m >>= f) := by
  unfold DemandsOwner
  rw [wp_bind]
  refine wp_mono ?_ (fun _ h => h) hm
  rintro a t rfl
  exact hf a

theorem DemandsOwner.ensure {p : Prop} [Decidable p] {e : LedgerError} {f : Unit → LedgerM D β}
    (hf : DemandsOwner s lease expected (f ())) :
    DemandsOwner s lease expected (Txn.ensure p e >>= f) :=
  .after (by simp) fun _ => hf

theorem DemandsOwner.liftDomain {x : Except DomainError α}
    (hf : ∀ a, DemandsOwner s lease expected (f a)) :
    DemandsOwner s lease expected (Ledger.liftDomain x >>= f) :=
  .after (by simp) hf

theorem DemandsOwner.ofOption {e : LedgerError} {x : Option α}
    (hf : ∀ a, DemandsOwner s lease expected (f a)) :
    DemandsOwner s lease expected (Txn.ofOption e x >>= f) :=
  .after (by simp) hf

end

section

variable [DecidableEq D] [CanonicalHash D] {s s' : Ledger D} {lease : OwnerLease}
  {now : DateTime}

theorem persistDecision_owned {decision : StrategyDecisionV1}
    {intent : Option NotificationIntentV1} :
    DemandsOwner s lease .core (persistDecision lease decision intent now) :=
  .liftDomain fun _ => .after (wp_mono (fun _ _ h => h.1) (fun _ h => h) wp_checkIntents)
    fun _ => .first

theorem persistScheduledReport_owned {intent : NotificationIntentV2} :
    DemandsOwner s lease .report (persistScheduledReport lease intent now) := by
  refine .liftDomain fun _ => ?_
  cases intent.lineage with
  | tradeReady => trivial
  | scheduledReport => exact .first

/-- **Fenced leases.** An operation returns only if the lease it carries has the stored
generation. -/
theorem Op.run_fenced (op : Op D) (s : Ledger D) : wp op.run
      (fun _ _ => ∀ lease, op.lease? = some lease → generationOf s lease.role = lease.generation)
      (fun _ => True) s := by
  have owned : ∀ {α : Type} {m : LedgerM D α} {lease : OwnerLease} {expected : OwnerRole},
      DemandsOwner s lease expected m →
      wp m (fun _ _ => generationOf s lease.role = lease.generation) (fun _ => True) s :=
    fun h => wp_mono (fun _ _ h => h.2) (fun _ h => h) h
  cases op <;> simp only [Op.run, wp_bind, wp_pure, Op.lease?, reduceCtorEq, false_implies,
    implies_true, Option.some.injEq, forall_eq']
  case acquireOwner => exact wp_mono (fun _ _ _ => trivial) (fun _ h => h) acquireOwner_spec
  case refreshOwner => exact wp_mono (fun _ _ _ => trivial) (fun _ h => h) refreshOwner_spec
  case acknowledgeFailure =>
    exact wp_mono (fun _ _ _ => trivial) (fun _ _ => trivial) acknowledgeFailure_spec
  case replayFailure => exact wp_mono (fun _ _ _ => trivial) (fun _ _ => trivial) replayFailure_spec
  case renewOwner => exact wp_mono (fun _ _ h => h.1) (fun _ h => h) renewOwner_spec
  case releaseOwner => exact wp_mono (fun _ _ h => h.1) (fun _ h => h) releaseOwner_spec
  case persistDecision => exact owned persistDecision_owned
  case persistScheduledReport => exact owned persistScheduledReport_owned
  case persistOperatorNotification => exact owned (.liftDomain fun _ => .ensure .first)
  case replayOperatorNotification => exact owned (.liftDomain fun _ => .first)
  case cancelEventAt => exact owned (.ensure (.ensure .first))
  case claimNext | beginTransport => exact owned (.ofOption fun _ => .ensure .first)
  case rejectBeforeTransport => exact owned (.ensure .first)
  case settle => exact owned (.after (by simp) fun _ => .first)
  all_goals exact owned .first

/-- **Fenced claims.** An operation returns only if the claim it carries has the stored generation
of the delivery role. -/
theorem Op.run_claimed (op : Op D) (s : Ledger D) : wp op.run
      (fun _ _ => ∀ handle, op.claim? = some handle →
        generationOf s .delivery = handle.ownerGeneration) (fun _ => True) s := by
  have agree : ∀ {lease : OwnerLease} {handle : ClaimHandle},
      handle.ownerGeneration = lease.generation →
      lease.role = .delivery ∧ generationOf s lease.role = lease.generation →
      generationOf s .delivery = handle.ownerGeneration := by
    rintro lease handle hgen ⟨hrole, hstored⟩
    rw [hgen, ← hstored, hrole]
  cases op with
  | beginTransport draws lease claimed now duration =>
    have howned : DemandsOwner s lease .delivery
        (Ledger.beginTransport draws lease claimed now duration) := .ofOption fun _ =>
          .ensure .first
    simp only [Op.run, wp_bind, wp_pure, Op.claim?, Option.some.injEq, forall_eq']
    exact wp_mono (fun _ _ h => agree h.1.2.1 h.2) (fun _ _ => trivial)
      (wp_and beginTransport_spec howned)
  | rejectBeforeTransport draws lease handle errorCode now =>
    have howned : DemandsOwner s lease .delivery
        (Ledger.rejectBeforeTransport draws lease handle errorCode now) := .ensure .first
    simp only [Op.run, wp_bind, wp_pure, Op.claim?, Option.some.injEq, forall_eq']
    exact wp_mono (fun _ _ h => agree h.1.1 h.2) (fun _ _ => trivial)
      (wp_and rejectBeforeTransport_spec howned)
  | settle draws lease handle attemptId settlement now =>
    have howned : DemandsOwner s lease .delivery
        (Ledger.settle draws lease handle attemptId settlement now) :=
      .after (by simp) fun _ => .first
    simp only [Op.run, wp_bind, wp_pure, Op.claim?, Option.some.injEq, forall_eq']
    exact wp_mono (fun _ _ h => agree h.1.2.1 h.2) (fun _ _ => trivial)
      (wp_and settle_spec howned)
  | _ =>
    refine wp_mono ?_ (fun _ h => h) (Op.run_did _ s)
    intro _ _ _ handle hc
    cases hc

variable {op : Op D}

theorem step_refused {P : Prop} (h : wp op.run (fun _ _ => P) (fun _ => True) s) (hP : ¬ P) :
    ∃ e, step s op = (.error e, s) := by
  rcases hs : step s op with ⟨e | out, s'⟩
  · exact ⟨e, by rw [step_error hs]⟩
  · exact absurd (wp_ok h (commit_ok hs)) hP

/-! ## Issued generations -/

/-- The generation of `role` that an answer issues. -/
def issued (role : OwnerRole) (event : Op D × Except LedgerError Outcome) : Option Int :=
  match event.2 with
  | .ok (.leased lease) => if lease.role = role then some lease.generation else none
  | _ => none

/-- The three operations that answer with a lease. -/
def Op.leases : Op D → Bool
  | .acquireOwner .. | .renewOwner .. | .refreshOwner .. => true
  | _ => false

theorem Op.run_leases (op : Op D) (s : Ledger D) :
    wp op.run (fun out _ => ∀ lease, out = .leased lease → op.leases = true) (fun _ => True) s := by
  have any : ∀ {α : Type} {m : LedgerM D α}, wp m (fun _ _ => True) (fun _ => True) s := by
    intro α m
    unfold wp
    split <;> trivial
  cases op <;> simp only [Op.run, Op.leases, wp_bind, wp_pure, reduceCtorEq, false_implies,
    implies_true, any]

theorem step_leases (h : step s op = (.ok (.leased lease), s')) :
    ∃ now, op.now? = some now ∧ Leases lease.role now lease s s' := by
  have hdid := step_did h
  have hleases := wp_ok (op.run_leases s) (commit_ok h) lease rfl
  cases op <;> simp only [Op.leases, reduceCtorEq] at hleases <;>
    simp only [Op.did, Outcome.leased.injEq, exists_eq_left'] at hdid
  all_goals exact ⟨_, rfl, hdid.forRole ▸ hdid⟩

omit [DecidableEq D] [CanonicalHash D] in
theorem WritesOwner.generation_le {role role' : OwnerRole} {row : StoredOwner}
    (h : WritesOwner role now row s s') : generationOf s role' ≤ generationOf s' role' := by
  rw [h.written]
  by_cases hr : role' = role
  · subst hr
    simpa [generationOf] using h.generation
  · simp [generationOf, Function.update_of_ne hr]

omit [DecidableEq D] in
theorem Op.did_owners {out : Outcome} (clock : DateTime) (h : op.did s out s') :
    s'.runtimeOwners = s.runtimeOwners ∨
      ∃ role row, WritesOwner role (op.now?.getD clock) row s s' := by
  cases op <;> simp only [Op.did] at h
  case acquireOwner | renewOwner | refreshOwner =>
    obtain ⟨lease, -, -, -, row, -, hw⟩ := h
    exact .inr ⟨_, row, hw⟩
  case releaseOwner =>
    obtain ⟨row, hw⟩ := h
    exact .inr ⟨_, row, hw clock⟩
  case persistOperatorNotification | cancelEventAt | beginTransport | settle => exact .inl h.1
  all_goals exact .inl h.owners

theorem step_generation (s : Ledger D) (op : Op D) (role : OwnerRole) :
    generationOf s role ≤ generationOf (step s op).2 role := by
  rcases step_cases s op with h | ⟨out, h⟩
  · rw [h]
  · rcases Op.did_owners 0 h with h | ⟨_, row, h⟩
    · simp [generationOf, h]
    · exact h.generation_le

theorem issued_stored {role : OwnerRole} {g : Int} (h : issued role (op, (step s op).1) = some g) :
    generationOf s role ≤ g ∧ generationOf (step s op).2 role = g := by
  rcases hs : step s op with ⟨_ | out, s'⟩
  · simp [issued, hs] at h
  · rw [hs] at h
    cases out <;> simp only [issued, reduceCtorEq] at h
    rename_i lease
    split at h
    · rename_i hrole
      cases h
      obtain ⟨now, -, -, -, row, hg, hw⟩ := step_leases hs
      subst hrole
      refine ⟨hg ▸ hw.generation, ?_⟩
      rw [hw.written]
      simp [generationOf, hg]
    · cases h

theorem issued_sorted {ok : Ledger D → Op D → Prop} {s₀ : Ledger D}
    {log : List (Op D × Except LedgerError Outcome)} (h : LedgerRun ok s₀ log s)
    (role : OwnerRole) : (log.filterMap (issued role)).Pairwise (· ≤ ·) ∧
      ∀ g ∈ log.filterMap (issued role), g ≤ generationOf s role := by
  refine h.invariant_log
    (I := fun log s => (log.filterMap (issued role)).Pairwise (· ≤ ·) ∧
      ∀ g ∈ log.filterMap (issued role), g ≤ generationOf s role) ?_ ?_
  · simp
  · rintro log s op ⟨hsorted, hle⟩ -
    have hgrow := step_generation s op role
    cases hi : issued role (op, (step s op).1) with
    | none =>
      simp only [filterMap_append, filterMap_cons, hi, filterMap_nil,
        append_nil]
      exact ⟨hsorted, fun g hg => (hle g hg).trans hgrow⟩
    | some new =>
      obtain ⟨hbelow, hstored⟩ := issued_stored hi
      simp only [filterMap_append, filterMap_cons, hi, filterMap_nil]
      refine ⟨?_, ?_⟩
      · rw [pairwise_append]
        refine ⟨hsorted, pairwise_singleton _ _, ?_⟩
        intro a ha b hb
        rw [mem_singleton.mp hb]
        exact (hle a ha).trans hbelow
      · intro g hg
        rcases mem_append.mp hg with hg | hg
        · exact (hle g hg).trans hgrow
        · rw [mem_singleton.mp hg, hstored]

/-- **Generation fencing.** In every run, with any clock readings: the issued generations of each
role never decrease; a lease taken over one that was over gets a generation above all issued
before; and once a generation was issued, a lease or claim of a lower one only gets errors that
leave the ledger as it was. -/
theorem generations_fence {s₀ : Ledger D} {log : List (Op D × Except LedgerError Outcome)}
    (h : LedgerRun anyStep s₀ log s) : (∀ role, (log.filterMap (issued role)).Pairwise (· ≤ ·)) ∧
      (∀ op lease s' now, step s op = (.ok (.leased lease), s') → op.now? = some now →
        LeaseOver s lease.role lease.ownerId now →
        ∀ g ∈ log.filterMap (issued lease.role), g < lease.generation) ∧
      (∀ op lease, op.lease? = some lease →
        ∀ g ∈ log.filterMap (issued lease.role), lease.generation < g →
          ∃ e, step s op = (.error e, s)) ∧
      ∀ op handle, op.claim? = some handle →
        ∀ g ∈ log.filterMap (issued .delivery), handle.ownerGeneration < g →
          ∃ e, step s op = (.error e, s) := by
  refine ⟨fun role => (issued_sorted h role).1, ?_, ?_, ?_⟩
  · intro op lease s' now hstep hnow hover g hg
    obtain ⟨now', hnow', hlease⟩ := step_leases hstep
    obtain rfl : now = now' := Option.some.inj (hnow.symm.trans hnow')
    have hle := (issued_sorted h lease.role).2 g hg
    have hraised := hlease.raised hover
    omega
  · intro op lease hl g hg hlt
    have hle := (issued_sorted h lease.role).2 g hg
    refine step_refused (op.run_fenced s) fun hall => ?_
    have hstored := hall lease hl
    omega
  · intro op handle hc g hg hlt
    have hle := (issued_sorted h .delivery).2 g hg
    refine step_refused (op.run_claimed s) fun hall => ?_
    have hstored := hall handle hc
    omega

end

/-! ## A takeover -/

/-- The lease of a core process that let it run out. -/
def lapsedLease : OwnerLease :=
  { role := .core, ownerId := "core-process-0001", generation := 1, leaseUntil := 2000000000 }

/-- A second core process takes the role over. -/
def takeover : List (Op Document) :=
  [.acquireOwner .core "core-process-0001" 1000000000 1000000000,
    .acquireOwner .core "core-process-0002" 3000000000 1000000000]

theorem generations_fence_takeover :
    (play step (migrated : Ledger Document) takeover).1.filterMap (issued .core) = [1, 2] ∧
      ∃ e, step (play step migrated takeover).2 (.renewOwner lapsedLease 3000000000 1000000000) =
        (.error e, (play step migrated takeover).2) := by
  have hissued : (play step (migrated : Ledger Document) takeover).1.filterMap (issued .core) =
      [1, 2] := by decide
  refine ⟨hissued, ?_⟩
  have hfence := generations_fence (Run.play (allowed_anyStep takeover migrated))
  refine hfence.2.2.1 _ lapsedLease rfl 2 ?_ (by decide)
  rw [show lapsedLease.role = .core from rfl, hissued]
  decide

end SpxSpark.Ledger
