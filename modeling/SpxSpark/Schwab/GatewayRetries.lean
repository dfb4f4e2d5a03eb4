import Mathlib.Data.List.Chain
import Mathlib.Tactic.Linarith
import SpxSpark.Schwab.Gateway

/-!
# GatewayRetries — how a request ends, and how its attempts are spaced

What one attempt leads to depends on its outcome and on its number alone: `attempt_fate` names the
four cases.
-/

namespace SpxSpark.Schwab

open Lib List

variable (lower : String → String) (policy : SchwabRequestPolicy)

/-! ## Outcomes -/

/-- An OAuth failure, and a token file that loads. -/
def Recovers (a : Attempt) : Prop :=
  ∃ exc client, a.outcome = .exception exc ∧ isOauthFailure lower exc = true ∧
    a.reload = .loaded client

/-- A transient network failure or a retryable status: a backoff is computed. -/
def BacksOff (a : Attempt) : Prop :=
  (∃ exc, a.outcome = .exception exc ∧ isOauthFailure lower exc = false ∧ exc.transient = true) ∨
    ∃ response first again, a.outcome = .response response first again ∧
      isRetryableStatus response.status = true

/-- As before, and the server does not ask for too long a wait. -/
def Retried (a : Attempt) : Prop :=
  (∃ exc, a.outcome = .exception exc ∧ isOauthFailure lower exc = false ∧ exc.transient = true) ∨
    ∃ response first again, a.outcome = .response response first again ∧
      isRetryableStatus response.status = true ∧
      ∀ seconds, again = some seconds → (seconds : ℚ) ≤ policy.retryAfterMaxSeconds

variable {a : Attempt}

theorem Retried.backsOff (h : Retried lower policy a) : BacksOff lower a := by
  rcases h with hexc | ⟨response, first, again, hout, hstatus, -⟩
  · exact .inl hexc
  · exact .inr ⟨response, first, again, hout, hstatus⟩

theorem BacksOff.not_recovers (h : BacksOff lower a) : ¬ Recovers lower a := by
  rintro ⟨exc, client, hout, hoauth, -⟩
  rcases h with ⟨exc', hout', hnot, -⟩ | ⟨response, first, again, hout', -⟩
  · obtain rfl := Outcome.exception.inj (hout.symm.trans hout')
    rw [hoauth] at hnot
    cases hnot
  · cases hout.symm.trans hout'

/-! ## One attempt -/

/-- What an attempt adds to the log: one release, let through no earlier than the limiter allows
and no later than its start, and one observation. -/
structure Traced (policy : SchwabRequestPolicy) (retryIndex : ℕ) (m m' : Manager) : Prop where
  release : ∃ r : Release, m'.released = m.released ++ [r] ∧ r.index = retryIndex ∧
    r.releasedAt ≤ r.startedAt ∧
      (∀ allowed, m.nextAllowedAt = some allowed → allowed ≤ r.releasedAt) ∧
    ∃ allowed, m'.nextAllowedAt = some allowed ∧ r.releasedAt + Manager.interval policy ≤ allowed
  observation : ∃ o : SchwabRequestObservation, m'.recorded = m.recorded ++ [o] ∧
    o.retryIndex = retryIndex

/-- What an attempt leads to, case by case. -/
inductive Fate (retryIndex : ℕ) (a : Attempt) (oauthReloaded : Bool) : Next → Prop
  | declared {answer : Answer} {m : Manager} : answer.Declared →
      ¬ (Retried lower policy a ∧ retryIndex < policy.maxRetries) →
      ¬ (Recovers lower a ∧ oauthReloaded = false) →
      ¬ (BacksOff lower a ∧ retryIndex < policy.maxRetries ∧ maxExponent < retryIndex) →
      Fate retryIndex a oauthReloaded (.ended answer m)
  | overflow {error : OverflowError} {m : Manager} : BacksOff lower a →
      retryIndex < policy.maxRetries → maxExponent < retryIndex →
      Fate retryIndex a oauthReloaded (.ended (.overflowError error) m)
  | retried {client : Client} {m : Manager} : Retried lower policy a →
      retryIndex < policy.maxRetries → retryIndex ≤ maxExponent → m.reauthRequired = false →
      Fate retryIndex a oauthReloaded (.again client oauthReloaded m)
  | reloaded {client : Client} {m : Manager} : Recovers lower a → oauthReloaded = false →
      m.reauthRequired = false → Fate retryIndex a oauthReloaded (.again client true m)

def Next.manager : Next → Manager
  | .ended _ m => m
  | .again _ _ m => m

theorem backoffSeconds_eq (jitter : Jitter) (retryIndex : ℕ) :
    backoffSeconds policy jitter retryIndex =
      if retryIndex ≤ maxExponent then
        .ok (min policy.retryMaxSeconds (policy.retryBaseSeconds * 2 ^ retryIndex * jitter.factor))
      else .error .intTooLarge := by
  unfold backoffSeconds
  rw [timesInt_pow]
  split <;> rfl

theorem begin_traced (a : Attempt) (retryIndex : ℕ) (m : Manager) {m' : Manager}
    {o : SchwabRequestObservation} (ho : o.retryIndex = retryIndex)
    (hreleased : m'.released = (begin policy a retryIndex m).2.released)
    (hallowed : m'.nextAllowedAt = (begin policy a retryIndex m).2.nextAllowedAt)
    (hrecorded : m'.recorded = (begin policy a retryIndex m).2.recorded ++ [o]) :
    Traced policy retryIndex m m' := by
  have hstart : ∀ acquired : ℚ × Manager, acquired.1 ≤ acquired.2.now →
      acquired.1 ≤ acquired.2.now + (a.beforeStart : ℚ) := by
    intro acquired h
    exact h.trans (le_add_of_nonneg_right a.beforeStart.coe_nonneg)
  have hrec : (begin policy a retryIndex m).2.recorded = m.recorded := by
    unfold begin Manager.acquire
    dsimp only
    split <;> rfl
  refine ⟨⟨_, hreleased, rfl, ?_, ?_, ?_⟩, ⟨o, by rw [hrecorded, hrec], ho⟩⟩
  · apply hstart
    unfold Manager.acquire
    dsimp only
    split <;> exact le_rfl
  · intro allowed hm
    show allowed ≤ (m.acquire policy a).1
    unfold Manager.acquire
    rw [hm]
    dsimp only
    split
    · have := a.oversleep.coe_nonneg
      linarith
    · linarith
  · rw [hallowed]
    show ∃ allowed, (m.acquire policy a).2.nextAllowedAt = some allowed ∧
      (m.acquire policy a).1 + Manager.interval policy ≤ allowed
    unfold Manager.acquire
    dsimp only
    split
    · exact ⟨_, rfl, le_rfl⟩
    · exact ⟨_, rfl, add_le_add_left (le_max_left _ _) _⟩

theorem begin_reauth (a : Attempt) (retryIndex : ℕ) (m : Manager) :
    (begin policy a retryIndex m).2.reauthRequired = m.reauthRequired := by
  unfold begin Manager.acquire
  dsimp only
  split <;> rfl

variable {retryIndex : ℕ}

theorem retryDelay_small (h : retryIndex ≤ maxExponent) :
    (∀ again : Option ℚ≥0, (∀ seconds, again = some seconds →
        (seconds : ℚ) ≤ policy.retryAfterMaxSeconds) →
      ∃ seconds, retryDelay policy a again retryIndex = .ok (some seconds)) ∧
    (∀ again : Option ℚ≥0, ¬ (∀ seconds, again = some seconds →
        (seconds : ℚ) ≤ policy.retryAfterMaxSeconds) →
      retryDelay policy a again retryIndex = .ok none) := by
  unfold retryDelay
  rw [backoffSeconds_eq, if_pos h]
  constructor
  · intro again hshort
    cases again with
    | none => exact ⟨_, rfl⟩
    | some asked =>
      refine ⟨_, congrArg Except.ok (if_neg (not_lt.mpr (hshort asked rfl)))⟩
  · intro again hlong
    cases again with
    | none => exact absurd (fun seconds h => nomatch h) hlong
    | some asked =>
      show Except.ok (if policy.retryAfterMaxSeconds < asked then none else some _) = _
      rw [if_pos]
      by_contra hle
      refine hlong fun seconds hseconds => ?_
      rw [← Option.some.inj hseconds]
      exact not_lt.mp hle

theorem retryDelay_large (h : ¬ retryIndex ≤ maxExponent) (again : Option ℚ≥0) :
    retryDelay policy a again retryIndex = .error .intTooLarge := by
  unfold retryDelay
  rw [backoffSeconds_eq, if_neg h]
  rfl

theorem canRetry_iff : canRetry policy retryIndex = true ↔ retryIndex < policy.maxRetries := by
  simp [canRetry]

variable {m : Manager}

theorem reloadOauthClient_spec (hm : m.reauthRequired = false) (found : LoadResult)
    (client : Client) :
    (∀ c, found = .loaded c → ∃ m', m.reloadOauthClient found client = (some c, m') ∧
        m'.reauthRequired = false) ∧
      ((∀ c, found ≠ .loaded c) → (m.reloadOauthClient found client).1 = none) ∧
      (m.reloadOauthClient found client).2.released = m.released ∧
      (m.reloadOauthClient found client).2.recorded = m.recorded ∧
      (m.reloadOauthClient found client).2.nextAllowedAt = m.nextAllowedAt := by
  have hnot : ¬ m.reauthRequired = true := by simp [hm]
  unfold Manager.reloadOauthClient
  rw [if_neg hnot]
  dsimp only
  have hkept := m.dropIfCurrent_kept client
  generalize m.dropIfCurrent client = dropped at hkept ⊢
  cases found with
  | loaded c =>
    refine ⟨?_, fun h => absurd rfl (h c), hkept⟩
    intro c' hc
    obtain rfl := LoadResult.loaded.inj hc
    exact ⟨_, rfl, rfl⟩
  | tokenMissing => exact ⟨fun c hc => (nomatch hc), fun _ => rfl, hkept⟩
  | tokenLoadFailed => exact ⟨fun c hc => (nomatch hc), fun _ => rfl, hkept⟩

/-- What the handling of an outcome leaves alone, and the one observation it adds. -/
def Recording (retryIndex : ℕ) (m m' : Manager) : Prop :=
  ∃ o : SchwabRequestObservation, o.retryIndex = retryIndex ∧ m'.released = m.released ∧
    m'.nextAllowedAt = m.nextAllowedAt ∧ m'.recorded = m.recorded ++ [o]

theorem Recording.drop {m₁ : Manager} (h : Recording retryIndex m m₁) (client : Client) :
    Recording retryIndex m (m₁.dropIfCurrent client) := by
  obtain ⟨o, ho, hreleased, hallowed, hrecorded⟩ := h
  obtain ⟨hreleased', hrecorded', hallowed'⟩ := m₁.dropIfCurrent_kept client
  exact ⟨o, ho, hreleased'.trans hreleased, hallowed'.trans hallowed, hrecorded'.trans hrecorded⟩

theorem failed_fate (path : String) {exc : SessionException} (hout : a.outcome = .exception exc)
    (retryIndex : ℕ) (client : Client) (oauthReloaded : Bool) (started : ℚ)
    (hm : m.reauthRequired = false) : Fate lower policy retryIndex a oauthReloaded
        (failed lower policy path a exc retryIndex client oauthReloaded started m) ∧
      Recording retryIndex m
        (failed lower policy path a exc retryIndex client oauthReloaded started m).manager := by
  have hnotResponse : ∀ response first again, a.outcome ≠ .response response first again := by
    intro response first again h
    cases hout.symm.trans h
  unfold failed
  dsimp only
  by_cases hoauth : isOauthFailure lower exc = true
  · have hnotBack : ¬ BacksOff lower a := by
      rintro (⟨exc', hout', hnot, -⟩ | ⟨response, first, again, hout', -⟩)
      · obtain rfl := Outcome.exception.inj (hout.symm.trans hout')
        rw [hoauth] at hnot
        cases hnot
      · exact hnotResponse _ _ _ hout'
    rw [if_pos hoauth]
    by_cases hreloaded : oauthReloaded = true
    · rw [if_pos hreloaded]
      refine ⟨.declared trivial (fun h => hnotBack h.1.backsOff) ?_ (fun h => hnotBack h.1), ?_⟩
      · rintro ⟨-, hfalse⟩
        rw [hreloaded] at hfalse
        cases hfalse
      · generalize hrec : ({ m.recordObservation a.recordedAt _ with lastError := _ } : Manager)
          = m₁
        have hbase : Recording retryIndex m m₁ := by
          rw [← hrec]
          exact ⟨_, rfl, rfl, rfl, rfl⟩
        exact hbase.drop client
    · rw [if_neg hreloaded]
      have hfalse : oauthReloaded = false := Bool.eq_false_iff.mpr hreloaded
      generalize hrec : ({ m.recordObservation a.recordedAt _ with lastError := _ } : Manager) = m₁
      have hm₁ : m₁.reauthRequired = false := by
        rw [← hrec]
        exact hm
      obtain ⟨hloads, hfails, hkept⟩ := reloadOauthClient_spec hm₁ a.reload client
      have hbase : Recording retryIndex m m₁ := by
        rw [← hrec]
        exact ⟨_, rfl, rfl, rfl, rfl⟩
      have hrecording : Recording retryIndex m (m₁.reloadOauthClient a.reload client).2 := by
        obtain ⟨o, ho, hreleased, hallowed, hrecorded⟩ := hbase
        exact ⟨o, ho, hkept.1.trans hreleased, hkept.2.2.trans hallowed,
          hkept.2.1.trans hrecorded⟩
      by_cases hload : ∃ c, a.reload = .loaded c
      · obtain ⟨c, hc⟩ := hload
        obtain ⟨m', hm', hreauth⟩ := hloads c hc
        rw [hm'] at hrecording ⊢
        exact ⟨.reloaded ⟨exc, c, hout, hoauth, hc⟩ hfalse hreauth, hrecording⟩
      · have hnone := hfails fun c hc => hload ⟨c, hc⟩
        have hpair : m₁.reloadOauthClient a.reload client
            = (none, (m₁.reloadOauthClient a.reload client).2) := Prod.ext hnone rfl
        rw [hpair] at hrecording ⊢
        refine ⟨.declared trivial (fun h => hnotBack h.1.backsOff) ?_ (fun h => hnotBack h.1),
          hrecording⟩
        rintro ⟨⟨exc', c, -, -, hc⟩, -⟩
        exact hload ⟨c, hc⟩
  · have hnotRecovers : ¬ Recovers lower a := by
      rintro ⟨exc', c, hout', hoauth', -⟩
      obtain rfl := Outcome.exception.inj (hout.symm.trans hout')
      exact hoauth hoauth'
    rw [if_neg hoauth]
    by_cases hretry : (exc.transient && canRetry policy retryIndex) = true
    · obtain ⟨htransient, hcan⟩ := Bool.and_eq_true_iff.mp hretry
      have hback : BacksOff lower a := .inl ⟨exc, hout, Bool.eq_false_iff.mpr hoauth, htransient⟩
      have hretried : Retried lower policy a :=
        .inl ⟨exc, hout, Bool.eq_false_iff.mpr hoauth, htransient⟩
      rw [if_pos hretry, backoffSeconds_eq]
      by_cases hsmall : retryIndex ≤ maxExponent
      · rw [if_pos hsmall]
        exact ⟨.retried hretried ((canRetry_iff policy).mp hcan) hsmall hm, _, rfl, rfl, rfl, rfl⟩
      · rw [if_neg hsmall]
        exact ⟨.overflow hback ((canRetry_iff policy).mp hcan) (not_le.mp hsmall), _, rfl, rfl,
          rfl, rfl⟩
    · have hnot : ¬ (BacksOff lower a ∧ retryIndex < policy.maxRetries) := by
        rintro ⟨hback, hlt⟩
        rcases hback with ⟨exc', hout', -, htransient⟩ | ⟨response, first, again, hout', -⟩
        · obtain rfl := Outcome.exception.inj (hout.symm.trans hout')
          exact hretry (Bool.and_eq_true_iff.mpr ⟨htransient, (canRetry_iff policy).mpr hlt⟩)
        · exact hnotResponse _ _ _ hout'
      rw [if_neg hretry]
      exact ⟨.declared trivial (fun h => hnot ⟨h.1.backsOff, h.2⟩) (fun h => hnotRecovers h.1)
        (fun h => hnot ⟨h.1, h.2.1⟩), _, rfl, rfl, rfl, rfl⟩

theorem answered_fate (path : String) {response : GatewayResponse} {first again : Option ℚ≥0}
    (hout : a.outcome = .response response first again) (retryIndex : ℕ) (client : Client)
    (oauthReloaded : Bool) (started : ℚ) (hm : m.reauthRequired = false) :
    Fate lower policy retryIndex a oauthReloaded
        (answered policy path a response first again retryIndex client oauthReloaded started m) ∧
      Recording retryIndex m
        (answered policy path a response first again retryIndex client oauthReloaded started
          m).manager := by
  have hnotRecovers : ¬ Recovers lower a := by
    rintro ⟨exc, c, hout', -⟩
    cases hout.symm.trans hout'
  have hstatus : BacksOff lower a → isRetryableStatus response.status = true := by
    rintro (⟨exc, hout', -⟩ | ⟨response', first', again', hout', hretryable⟩)
    · cases hout.symm.trans hout'
    · obtain ⟨rfl, -, -⟩ := Outcome.response.inj (hout.symm.trans hout')
      exact hretryable
  have hfinish : ∀ m₁ : Manager, Recording retryIndex m m₁ →
      ¬ (Retried lower policy a ∧ retryIndex < policy.maxRetries) →
      ¬ (BacksOff lower a ∧ retryIndex < policy.maxRetries ∧ maxExponent < retryIndex) →
      Fate lower policy retryIndex a oauthReloaded (finish a response m₁) ∧
        Recording retryIndex m (finish a response m₁).manager := by
    intro m₁ hrecording hretried hback
    refine ⟨.declared trivial hretried (fun h => hnotRecovers h.1) hback, ?_⟩
    dsimp only [finish, Next.manager]
    split <;> exact hrecording
  unfold answered
  dsimp only
  by_cases h401 : response.status = 401
  · have hnotBack : ¬ BacksOff lower a := by
      intro hback
      have := hstatus hback
      rw [h401] at this
      exact absurd this (by decide)
    rw [if_pos h401]
    refine ⟨.declared trivial (fun h => hnotBack h.1.backsOff) (fun h => hnotRecovers h.1)
      (fun h => hnotBack h.1), ?_⟩
    generalize hrec : m.recordObservation a.recordedAt _ = m₁
    have hbase : Recording retryIndex m m₁ := by
      rw [← hrec]
      exact ⟨_, rfl, rfl, rfl, rfl⟩
    exact hbase.drop client
  · rw [if_neg h401]
    by_cases hretry : (isRetryableStatus response.status && canRetry policy retryIndex) = true
    · obtain ⟨hretryable, hcan⟩ := Bool.and_eq_true_iff.mp hretry
      have hlt := (canRetry_iff policy).mp hcan
      rw [if_pos hretry]
      by_cases hsmall : retryIndex ≤ maxExponent
      · obtain ⟨hshort, hlong⟩ := retryDelay_small policy (a := a) hsmall
        by_cases hasked : ∀ seconds, again = some seconds →
            (seconds : ℚ) ≤ policy.retryAfterMaxSeconds
        · obtain ⟨seconds, hdelay⟩ := hshort again hasked
          rw [hdelay]
          exact ⟨.retried (.inr ⟨response, first, again, hout, hretryable, hasked⟩) hlt hsmall hm,
            _, rfl, rfl, rfl, rfl⟩
        · rw [hlong again hasked]
          refine hfinish _ ⟨_, rfl, rfl, rfl, rfl⟩ ?_ ?_
          · rintro ⟨⟨exc, hout', -⟩ | ⟨response', first', again', hout', -, hasked'⟩, -⟩
            · cases hout.symm.trans hout'
            · obtain ⟨-, -, rfl⟩ := Outcome.response.inj (hout.symm.trans hout')
              exact hasked hasked'
          · rintro ⟨-, -, hlarge⟩
            omega
      · rw [retryDelay_large policy hsmall]
        exact ⟨.overflow (.inr ⟨response, first, again, hout, hretryable⟩) hlt
          (not_le.mp hsmall), _, rfl, rfl, rfl, rfl⟩
    · have hnot : ¬ (BacksOff lower a ∧ retryIndex < policy.maxRetries) := by
        rintro ⟨hback, hlt⟩
        exact hretry (Bool.and_eq_true_iff.mpr ⟨hstatus hback, (canRetry_iff policy).mpr hlt⟩)
      rw [if_neg hretry]
      exact hfinish _ ⟨_, rfl, rfl, rfl, rfl⟩ (fun h => hnot ⟨h.1.backsOff, h.2⟩)
        (fun h => hnot ⟨h.1, h.2.1⟩)

/-- **One attempt.** It has one of the four fates, and leaves one release and one observation. -/
theorem attempt_fate (path : String) (a : Attempt) (retryIndex : ℕ) (client : Client)
    (oauthReloaded : Bool) (hm : m.reauthRequired = false) :
    Fate lower policy retryIndex a oauthReloaded
        (attempt lower policy path a retryIndex client oauthReloaded m) ∧
      Traced policy retryIndex m
        (attempt lower policy path a retryIndex client oauthReloaded m).manager := by
  have hbegun : (begin policy a retryIndex m).2.reauthRequired = false :=
    (begin_reauth policy a retryIndex m).trans hm
  unfold attempt
  dsimp only
  cases hout : a.outcome with
  | exception exc =>
    obtain ⟨hfate, o, ho, hreleased, hallowed, hrecorded⟩ :=
      failed_fate lower policy path hout retryIndex client oauthReloaded
        (begin policy a retryIndex m).1 hbegun
    exact ⟨hfate, begin_traced policy a retryIndex m ho hreleased hallowed hrecorded⟩
  | response response first again =>
    obtain ⟨hfate, o, ho, hreleased, hallowed, hrecorded⟩ :=
      answered_fate lower policy path hout retryIndex client oauthReloaded
        (begin policy a retryIndex m).1 hbegun
    exact ⟨hfate, begin_traced policy a retryIndex m ho hreleased hallowed hrecorded⟩

/-! ## The loop -/

section Loop

variable (script : ℕ → Attempt)

/-- From attempt `i` on, every attempt before the last is retried, and the last is an OAuth failure
whose reload recovers: the loop has no attempt left for the recovered client. -/
def LateOauth (i : ℕ) (oauthReloaded : Bool) : Prop :=
  oauthReloaded = false ∧ (∀ j, i ≤ j → j < policy.maxRetries → Retried lower policy (script j)) ∧
    Recovers lower (script policy.maxRetries)

/-- From attempt `i` on, an attempt beyond the range of the floats' powers of two backs off: every
attempt before it is retried, or reloads the token, which happens at most once. -/
def LateBackoff (i : ℕ) (oauthReloaded : Bool) : Prop :=
  ∃ k, i ≤ k ∧ k < policy.maxRetries ∧ maxExponent < k ∧ BacksOff lower (script k) ∧
    (∀ j, i ≤ j → j < k → Retried lower policy (script j) ∨ Recovers lower (script j)) ∧
    ∀ j, i ≤ j → j < k → Recovers lower (script j) → oauthReloaded = false ∧
      ∀ j', i ≤ j' → j' < k → Recovers lower (script j') → j' = j

variable {lower policy script}

variable {i : ℕ}

theorem lateOauth_retried {b : Bool} (h : Retried lower policy (script i)) :
    LateOauth lower policy script i b ↔ LateOauth lower policy script (i + 1) b := by
  constructor
  · rintro ⟨hb, hretried, hlast⟩
    exact ⟨hb, fun j hj => hretried j (by omega), hlast⟩
  · rintro ⟨hb, hretried, hlast⟩
    refine ⟨hb, fun j hj hlt => ?_, hlast⟩
    rcases eq_or_lt_of_le hj with rfl | hj
    · exact h
    · exact hretried j hj hlt

theorem lateBackoff_retried {b : Bool} (h : Retried lower policy (script i))
    (hi : i ≤ maxExponent) :
    LateBackoff lower policy script i b ↔ LateBackoff lower policy script (i + 1) b := by
  have hnot : ¬ Recovers lower (script i) := (h.backsOff).not_recovers _
  constructor
  · rintro ⟨k, hik, hk, hlarge, hback, hbefore, honce⟩
    refine ⟨k, by omega, hk, hlarge, hback, fun j hj => hbefore j (by omega), ?_⟩
    intro j hj hjk hrec
    obtain ⟨hb, huniq⟩ := honce j (by omega) hjk hrec
    exact ⟨hb, fun j' hj' => huniq j' (by omega)⟩
  · rintro ⟨k, hik, hk, hlarge, hback, hbefore, honce⟩
    refine ⟨k, by omega, hk, hlarge, hback, ?_, ?_⟩
    · intro j hj hjk
      rcases eq_or_lt_of_le hj with rfl | hj
      · exact .inl h
      · exact hbefore j hj hjk
    · intro j hj hjk hrec
      rcases eq_or_lt_of_le hj with rfl | hj
      · exact absurd hrec hnot
      · obtain ⟨hb, huniq⟩ := honce j hj hjk hrec
        refine ⟨hb, fun j' hj' hjk' hrec' => ?_⟩
        rcases eq_or_lt_of_le hj' with rfl | hj'
        · exact absurd hrec' hnot
        · exact huniq j' hj' hjk' hrec'

theorem lateBackoff_reloaded (h : Recovers lower (script i)) :
    LateBackoff lower policy script i false ↔ LateBackoff lower policy script (i + 1) true := by
  constructor
  · rintro ⟨k, hik, hk, hlarge, hback, hbefore, honce⟩
    have hne : i ≠ k := by
      rintro rfl
      exact hback.not_recovers lower h
    have honly := (honce i le_rfl (by omega) h).2
    refine ⟨k, by omega, hk, hlarge, hback, fun j hj => hbefore j (by omega), ?_⟩
    intro j hj hjk hrec
    have := honly j (by omega) hjk hrec
    omega
  · rintro ⟨k, hik, hk, hlarge, hback, hbefore, honce⟩
    have hnone : ∀ j, i + 1 ≤ j → j < k → ¬ Recovers lower (script j) := by
      intro j hj hjk hrec
      exact absurd (honce j hj hjk hrec).1 (by simp)
    refine ⟨k, by omega, hk, hlarge, hback, ?_, ?_⟩
    · intro j hj hjk
      rcases eq_or_lt_of_le hj with rfl | hj
      · exact .inr h
      · exact hbefore j hj hjk
    · intro j hj hjk hrec
      have hj : j = i := by
        by_contra hne
        exact hnone j (by omega) hjk hrec
      refine ⟨rfl, fun j' hj' hjk' hrec' => ?_⟩
      by_contra hne
      exact hnone j' (by omega) hjk' hrec'

theorem retryLoop_declared_iff (lower : String → String) (policy : SchwabRequestPolicy)
    (script : ℕ → Attempt) (path : String) :
    ∀ (n i : ℕ) (client : Client) (b : Bool) (m : Manager), i + n = policy.maxRetries →
      m.reauthRequired = false →
      ((retryLoop lower policy path script (n + 1) i client b m).1.Declared ↔
        ¬ LateOauth lower policy script i b ∧ ¬ LateBackoff lower policy script i b) := by
  intro n
  induction n with
  | zero =>
    intro i client b m hi hm
    obtain rfl : i = policy.maxRetries := by omega
    have hnoBackoff : ¬ LateBackoff lower policy script policy.maxRetries b := by
      rintro ⟨k, hik, hk, -⟩
      omega
    have hfate := (attempt_fate lower policy path (script policy.maxRetries) policy.maxRetries
      client b hm).1
    unfold retryLoop
    revert hfate
    generalize attempt lower policy path _ _ client b m = next
    intro hfate
    cases hfate with
    | declared hdeclared _ hnotRecovers _ =>
      refine ⟨fun _ => ⟨?_, hnoBackoff⟩, fun _ => hdeclared⟩
      rintro ⟨hb, -, hlast⟩
      exact hnotRecovers ⟨hlast, hb⟩
    | overflow _ hlt _ => exact absurd hlt (lt_irrefl _)
    | retried _ hlt _ _ => exact absurd hlt (lt_irrefl _)
    | reloaded hrecovers hb _ =>
      refine ⟨fun hdeclared => absurd hdeclared id, fun hlate => ?_⟩
      exact hlate.1 ⟨hb, fun j hj hlt => by omega, hrecovers⟩
  | succ n ih =>
    intro i client b m hi hm
    have hlt : i < policy.maxRetries := by omega
    have hfate := (attempt_fate lower policy path (script i) i client b hm).1
    rw [retryLoop]
    revert hfate
    generalize attempt lower policy path _ _ client b m = next
    intro hfate
    cases hfate with
    | declared hdeclared hnotRetried hnotRecovers hnotOverflow =>
      refine ⟨fun _ => ⟨?_, ?_⟩, fun _ => hdeclared⟩
      · rintro ⟨-, hretried, -⟩
        exact hnotRetried ⟨hretried i le_rfl hlt, hlt⟩
      · rintro ⟨k, hik, hk, hlarge, hback, hbefore, honce⟩
        rcases eq_or_lt_of_le hik with rfl | hik
        · exact hnotOverflow ⟨hback, hk, hlarge⟩
        · rcases hbefore i le_rfl hik with hretried | hrecovers
          · exact hnotRetried ⟨hretried, hlt⟩
          · exact hnotRecovers ⟨hrecovers, (honce i le_rfl hik hrecovers).1⟩
    | overflow hback _ hlarge =>
      refine ⟨fun hdeclared => absurd hdeclared id, fun hlate => absurd ?_ hlate.2⟩
      exact ⟨i, le_rfl, hlt, hlarge, hback, fun j hj hjk => by omega,
        fun j hj hjk => by omega⟩
    | retried hretried _ hsmall hm' =>
      rw [lateOauth_retried hretried, lateBackoff_retried hretried hsmall]
      exact ih (i + 1) _ b _ (by omega) hm'
    | reloaded hrecovers hb hm' =>
      subst hb
      have hnotNow : ¬ LateOauth lower policy script i false := fun h =>
        ((h.2.1 i le_rfl hlt).backsOff).not_recovers _ hrecovers
      have hnotNext : ¬ LateOauth lower policy script (i + 1) true := fun h =>
        absurd h.1 (by simp)
      rw [lateBackoff_reloaded hrecovers]
      refine (ih (i + 1) _ true _ (by omega) hm').trans ?_
      exact ⟨fun h => ⟨hnotNow, h.2⟩, fun h => ⟨hnotNext, h.2⟩⟩

/-- What a run of attempts from attempt `i` on adds to the log: consecutive numbers, one
observation each, an interval between each release and the next, and none before the limiter
allows. -/
structure Logged (policy : SchwabRequestPolicy) (i : ℕ) (m m' : Manager) (rs : List Release)
    (os : List SchwabRequestObservation) : Prop where
  released : m'.released = m.released ++ rs
  recorded : m'.recorded = m.recorded ++ os
  numbered : rs.map (·.index) = List.range' i rs.length
  once : os.map (·.retryIndex) = rs.map (·.index)
  paced : rs.IsChain fun r r' => r.releasedAt + Manager.interval policy ≤ r'.releasedAt
  allowed : ∀ r ∈ rs.head?, ∀ allowed, m.nextAllowedAt = some allowed → allowed ≤ r.releasedAt
  started : ∀ r ∈ rs, r.releasedAt ≤ r.startedAt

theorem Logged.nil (i : ℕ) (m : Manager) : Logged policy i m m [] [] where
  released := (append_nil _).symm
  recorded := (append_nil _).symm
  numbered := rfl
  once := rfl
  paced := .nil
  allowed _ hr := nomatch hr
  started _ hr := nomatch hr

theorem Traced.logged {m' m'' : Manager} {rs : List Release} {os : List SchwabRequestObservation}
    (h : Traced policy i m m') (hrest : Logged policy (i + 1) m' m'' rs os) :
    ∃ r o, Logged policy i m m'' (r :: rs) (o :: os) := by
  obtain ⟨⟨r, hreleased, hindex, hstart, hallowed, next, hnext, hinterval⟩, o, hrecorded, ho⟩ := h
  refine ⟨r, o, ?_, ?_, ?_, ?_, ?_, ?_, ?_⟩
  · rw [hrest.released, hreleased, append_assoc, singleton_append]
  · rw [hrest.recorded, hrecorded, append_assoc, singleton_append]
  · rw [map_cons, hrest.numbered, hindex, length_cons, range'_succ]
  · rw [map_cons, map_cons, hrest.once, ho, hindex]
  · refine isChain_cons.mpr ⟨?_, hrest.paced⟩
    intro r' hr'
    exact hinterval.trans (hrest.allowed r' hr' next hnext)
  · intro r' hr'
    obtain rfl := Option.some.inj hr'
    exact hallowed
  · intro r' hr'
    rcases mem_cons.mp hr' with rfl | hr'
    · exact hstart
    · exact hrest.started r' hr'

theorem retryLoop_logged (lower : String → String) (policy : SchwabRequestPolicy)
    (script : ℕ → Attempt) (path : String) :
    ∀ (n i : ℕ) (client : Client) (b : Bool) (m : Manager), m.reauthRequired = false →
      ∃ rs os, rs.length ≤ n ∧
        Logged policy i m (retryLoop lower policy path script n i client b m).2 rs os := by
  intro n
  induction n with
  | zero => exact fun i client b m _ => ⟨[], [], le_rfl, .nil i m⟩
  | succ n ih =>
    intro i client b m hm
    obtain ⟨hfate, htraced⟩ := attempt_fate lower policy path (script i) i client b hm
    rw [retryLoop]
    revert hfate htraced
    generalize attempt lower policy path _ _ client b m = next
    intro hfate htraced
    have hended : ∀ m', Traced policy i m m' →
        ∃ rs os, rs.length ≤ n + 1 ∧ Logged policy i m m' rs os := by
      intro m' htraced
      obtain ⟨r, o, hlogged⟩ := htraced.logged (.nil (i + 1) m')
      exact ⟨[r], [o], by simp, hlogged⟩
    have hagain : ∀ client b m', m'.reauthRequired = false → Traced policy i m m' →
        ∃ rs os, rs.length ≤ n + 1 ∧
          Logged policy i m (retryLoop lower policy path script n (i + 1) client b m').2 rs os := by
      intro client b m' hm' htraced
      obtain ⟨rs, os, hlen, hrest⟩ := ih (i + 1) client b m' hm'
      obtain ⟨r, o, hlogged⟩ := htraced.logged hrest
      exact ⟨r :: rs, o :: os, by simpa using hlen, hlogged⟩
    cases hfate with
    | declared => exact hended _ htraced
    | overflow => exact hended _ htraced
    | retried _ _ _ hm' => exact hagain _ _ _ hm' htraced
    | reloaded _ _ hm' => exact hagain _ _ _ hm' htraced

end Loop

/-! ## The request -/

/-- The manager has a client, or the token file loads one. -/
def Starts (m : Manager) (entryLoad : LoadResult) : Prop :=
  m.reauthRequired = false ∧ (m.client.isSome ∨ ∃ client, entryLoad = .loaded client)

theorem request_cases (path : String) (entryLoad : LoadResult) (script : ℕ → Attempt)
    (m : Manager) : (path ∉ allowedMarketDataPaths ∧
      ∃ message, request lower policy path entryLoad script m = (.valueError message, m)) ∨
    (path ∈ allowedMarketDataPaths ∧ ¬ Starts m entryLoad ∧ ∃ message m',
      request lower policy path entryLoad script m = (.unavailable message, m') ∧
        m'.released = m.released ∧ m'.recorded = m.recorded) ∨
    (path ∈ allowedMarketDataPaths ∧ Starts m entryLoad ∧ ∃ client m',
      request lower policy path entryLoad script m =
          retryLoop lower policy path script (policy.maxRetries + 1) 0 client false m' ∧
        m'.reauthRequired = false ∧ m'.released = m.released ∧ m'.recorded = m.recorded ∧
        m'.nextAllowedAt = m.nextAllowedAt) := by
  unfold request
  by_cases hpath : path ∈ allowedMarketDataPaths
  · rw [if_neg (not_not.mpr hpath)]
    refine .inr ?_
    by_cases hreauth : m.reauthRequired = true
    · rw [if_pos hreauth]
      refine .inl ⟨hpath, ?_, _, _, rfl, rfl, rfl⟩
      rintro ⟨hfalse, -⟩
      rw [hreauth] at hfalse
      cases hfalse
    · have hfalse : m.reauthRequired = false := Bool.eq_false_iff.mpr hreauth
      rw [if_neg hreauth]
      cases hclient : m.client with
      | some client =>
        exact .inr ⟨hpath, ⟨hfalse, .inl (by rw [hclient]; rfl)⟩, client, m, rfl, hfalse, rfl,
          rfl, rfl⟩
      | none =>
        have hnone : ¬ m.client.isSome = true := by simp [hclient]
        cases entryLoad with
        | loaded client =>
          exact .inr ⟨hpath, ⟨hfalse, .inr ⟨client, rfl⟩⟩, client, _, rfl, rfl, rfl, rfl, rfl⟩
        | tokenMissing =>
          refine .inl ⟨hpath, ?_, _, _, rfl, rfl, rfl⟩
          rintro ⟨-, hsome | ⟨client, hload⟩⟩
          · exact hnone hsome
          · cases hload
        | tokenLoadFailed =>
          refine .inl ⟨hpath, ?_, _, _, rfl, rfl, rfl⟩
          rintro ⟨-, hsome | ⟨client, hload⟩⟩
          · exact hnone hsome
          · cases hload
  · rw [if_pos hpath]
    exact .inl ⟨hpath, _, rfl⟩

/-- **A request over every script.** It ends with a response or a declared gateway error if and
only if its path is a market-data path and, where it starts at all, neither late case lies in its
script. In every case it makes at most `max_retries + 1` attempts, each recorded once, and the
limiter lets each through an interval after the one before it. -/
theorem request_declared_iff (path : String) (entryLoad : LoadResult) (script : ℕ → Attempt)
    (m : Manager) : ((request lower policy path entryLoad script m).1.Declared ↔
      path ∈ allowedMarketDataPaths ∧
        (Starts m entryLoad → ¬ LateOauth lower policy script 0 false ∧
          ¬ LateBackoff lower policy script 0 false)) ∧
    ∃ rs os, (request lower policy path entryLoad script m).2.released = m.released ++ rs ∧
      (request lower policy path entryLoad script m).2.recorded = m.recorded ++ os ∧
      rs.length ≤ policy.maxRetries + 1 ∧
      rs.map (·.index) = List.range rs.length ∧
      os.map (·.retryIndex) = List.range rs.length ∧
      (rs.IsChain fun r r' => r.releasedAt + 60 / (policy.requestsPerMinute : ℚ) ≤ r'.releasedAt) ∧
      ∀ r ∈ rs, r.releasedAt ≤ r.startedAt := by
  rcases request_cases lower policy path entryLoad script m with
    ⟨hpath, message, heq⟩ | ⟨hpath, hstarts, message, m', heq, hreleased, hrecorded⟩ |
      ⟨hpath, hstarts, client, m', heq, hreauth, hreleased, hrecorded, -⟩
  · rw [heq]
    refine ⟨⟨fun h => absurd h id, fun h => absurd h.1 hpath⟩, [], [], ?_⟩
    simp
  · rw [heq]
    refine ⟨⟨fun _ => ⟨hpath, fun h => absurd h hstarts⟩, fun _ => trivial⟩, [], [], ?_⟩
    exact ⟨by rw [hreleased, append_nil], by rw [hrecorded, append_nil],
      Nat.zero_le _, rfl, rfl, .nil, fun r hr => nomatch hr⟩
  · have hdeclared := retryLoop_declared_iff lower policy script path policy.maxRetries 0 client
      false m' (Nat.zero_add _) hreauth
    obtain ⟨rs, os, hlen, hlogged⟩ :=
      retryLoop_logged lower policy script path (policy.maxRetries + 1) 0 client false m' hreauth
    have hnumbered : rs.map (·.index) = List.range rs.length := by
      rw [hlogged.numbered, range_eq_range']
    rw [heq]
    refine ⟨hdeclared.trans ⟨fun h => ⟨hpath, fun _ => h⟩, fun h => h.2 hstarts⟩, rs, os, ?_⟩
    exact ⟨by rw [hlogged.released, hreleased], by rw [hlogged.recorded, hrecorded], hlen,
      hnumbered, hlogged.once.trans hnumbered, hlogged.paced, hlogged.started⟩

/-- Three times 503, and then a token failure that a reload recovers from. -/
def lateToken (retryIndex : ℕ) : Attempt :=
  if retryIndex < 3 then
    { outcome := .response ⟨503, "application/json", []⟩ none none
      jitter := ⟨1, by decide +kernel, by decide +kernel⟩ }
  else
    { outcome := .exception ⟨"OAuthError", "authlib.integrations.base_client", false⟩
      reload := .loaded 8
      jitter := ⟨1, by decide +kernel, by decide +kernel⟩ }

/-- The request runs off the end of its loop. -/
theorem request_lateToken :
    (request id {} "/marketdata/v1/quotes" .tokenMissing lateToken { client := some 7 }).1 =
        .assertionError "Schwab retry loop exhausted without a response" ∧
      ¬ (request id {} "/marketdata/v1/quotes" .tokenMissing lateToken
        { client := some 7 }).1.Declared := by
  have h : (request id {} "/marketdata/v1/quotes" .tokenMissing lateToken
      { client := some 7 }).1 =
        .assertionError "Schwab retry loop exhausted without a response" := by decide +kernel
  refine ⟨h, ?_⟩
  rw [h]
  exact id

end SpxSpark.Schwab
