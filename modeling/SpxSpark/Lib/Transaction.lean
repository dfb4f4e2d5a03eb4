import Mathlib.Data.List.Basic

/-!
# Transaction — programs over a state that either commit or leave no trace

A transaction reads and rewrites a state `σ` and may stop with an error `ε`. `commit` runs one
atomically: an error keeps the old state, so whatever the program had already written is gone.
-/

namespace SpxSpark.Lib

variable {σ ε α β : Type}

/-- A program over `σ` that may fail with `ε`. -/
abbrev Txn (σ ε α : Type) := StateT σ (Except ε) α

namespace Txn

/-- Runs `m` atomically: a failure rolls the state back. -/
def commit (m : Txn σ ε α) (s : σ) : Except ε α × σ :=
  match m s with
  | .ok (a, s') => (.ok a, s')
  | .error e => (.error e, s)

/-- Stops with `e` unless `p` holds. -/
def ensure (p : Prop) [Decidable p] (e : ε) : Txn σ ε Unit :=
  if p then pure () else throw e

/-- A computation that reads no state, inside a transaction. -/
def ofExcept (x : Except ε α) : Txn σ ε α := fun s => x.map (·, s)

/-- The value of an option, or the error `e`. -/
def ofOption (e : ε) : Option α → Txn σ ε α
  | some a => pure a
  | none => throw e

/-- Weakest precondition: `Q` at a normal end, `E` at an error. -/
def wp (m : Txn σ ε α) (Q : α → σ → Prop) (E : ε → Prop) (s : σ) : Prop :=
  match m s with
  | .ok (a, s') => Q a s'
  | .error e => E e

variable {Q Q' : α → σ → Prop} {R : β → σ → Prop} {E E' : ε → Prop} {s s' : σ}

@[simp]
theorem wp_pure (a : α) : wp (pure a : Txn σ ε α) Q E s ↔ Q a s := Iff.rfl

@[simp]
theorem wp_throw (e : ε) : wp (throw e : Txn σ ε α) Q E s ↔ E e := Iff.rfl

@[simp]
theorem wp_bind (m : Txn σ ε α) (f : α → Txn σ ε β) :
    wp (m >>= f) R E s ↔ wp m (fun a t => wp (f a) R E t) E s := by
  simp only [wp, bind, StateT.bind, Except.bind]
  cases m s with
  | error e => exact Iff.rfl
  | ok p => exact Iff.rfl

@[simp]
theorem wp_get {Q : σ → σ → Prop} : wp (get : Txn σ ε σ) Q E s ↔ Q s s := Iff.rfl

@[simp]
theorem wp_modify {Q : PUnit → σ → Prop} (f : σ → σ) :
    wp (modify f : Txn σ ε PUnit) Q E s ↔ Q ⟨⟩ (f s) := Iff.rfl

@[simp]
theorem wp_ensure {Q : Unit → σ → Prop} (p : Prop) [Decidable p] (e : ε) :
    wp (ensure p e : Txn σ ε Unit) Q E s ↔ (p → Q () s) ∧ (¬ p → E e) := by
  by_cases h : p
  · simp [ensure, h]
  · simp [ensure, h]

@[simp]
theorem wp_ofExcept (x : Except ε α) :
    wp (ofExcept x : Txn σ ε α) Q E s ↔ (∀ a, x = .ok a → Q a s) ∧ (∀ e, x = .error e → E e) := by
  cases x with
  | error e => simp [wp, ofExcept, Except.map]
  | ok a => simp [wp, ofExcept, Except.map]

@[simp]
theorem wp_ofOption (e : ε) (x : Option α) :
    wp (ofOption e x : Txn σ ε α) Q E s ↔ (∀ a, x = some a → Q a s) ∧ (x = none → E e) := by
  cases x with
  | none => simp [ofOption]
  | some a => simp [ofOption]

@[simp]
theorem wp_ite (c : Prop) [Decidable c] (m n : Txn σ ε α) :
    wp (if c then m else n) Q E s ↔ (c → wp m Q E s) ∧ (¬ c → wp n Q E s) := by
  by_cases h : c <;> simp [h]

variable {m : Txn σ ε α}

theorem wp_mono (hQ : ∀ a t, Q a t → Q' a t) (hE : ∀ e, E e → E' e) (h : wp m Q E s) :
    wp m Q' E' s := by
  unfold wp at h ⊢
  cases hm : m s with
  | error e => rw [hm] at h; exact hE e h
  | ok p => rw [hm] at h; exact hQ p.1 p.2 h

theorem wp_trivial : wp m (fun _ _ => True) (fun _ => True) s := by
  unfold wp
  split
  · trivial
  · trivial

theorem wp_and (h : wp m Q E s) (h' : wp m Q' E' s) :
    wp m (fun a t => Q a t ∧ Q' a t) (fun e => E e ∧ E' e) s := by
  unfold wp at h h' ⊢
  cases hm : m s with
  | error e => rw [hm] at h h'; exact ⟨h, h'⟩
  | ok p => rw [hm] at h h'; exact ⟨h, h'⟩

theorem wp_ok {a : α} (h : wp m Q E s) (hm : m s = .ok (a, s')) : Q a s' := by
  unfold wp at h
  rw [hm] at h
  exact h

theorem wp_error {e : ε} (h : wp m Q E s) (hm : m s = .error e) : E e := by
  unfold wp at h
  rw [hm] at h
  exact h

theorem wp_forM {γ : Type} {body : γ → Txn σ ε PUnit} (I : List γ → σ → Prop)
    (hbody : ∀ x xs t, I (x :: xs) t → wp (body x) (fun _ => I xs) E t) :
    ∀ {xs : List γ} {s : σ}, I xs s → wp (xs.forM body) (fun _ => I []) E s
  | [], _, h => h
  | x :: xs, _, h => by
      rw [List.forM_eq_forM, List.forM_cons, wp_bind]
      exact wp_mono (fun _ _ h' => wp_forM I hbody h') (fun _ h' => h') (hbody x xs _ h)

theorem wp_foldlM {γ : Type} {body : β → γ → Txn σ ε β} (I : List γ → β → σ → Prop)
    (hbody : ∀ x xs b t, I (x :: xs) b t → wp (body b x) (fun b' => I xs b') E t) :
    ∀ {xs : List γ} {b : β} {s : σ}, I xs b s → wp (xs.foldlM body b) (fun b' => I [] b') E s
  | [], _, _, h => h
  | x :: xs, _, _, h => by
      rw [List.foldlM_cons, wp_bind]
      exact wp_mono (fun _ _ h' => wp_foldlM I hbody h') (fun _ h' => h') (hbody x xs _ _ h)

/-! ## Atomic runs -/

theorem commit_ok {a : α} (hm : commit m s = (.ok a, s')) : m s = .ok (a, s') := by
  unfold commit at hm
  cases h : m s with
  | error e => simp [h] at hm
  | ok p =>
    obtain ⟨b, t⟩ := p
    simp only [h, Prod.mk.injEq, Except.ok.injEq] at hm
    obtain ⟨rfl, rfl⟩ := hm
    rfl

theorem commit_error {e : ε} (hm : commit m s = (.error e, s')) : m s = .error e ∧ s' = s := by
  unfold commit at hm
  cases h : m s with
  | error e' =>
    simp only [h, Prod.mk.injEq, Except.error.injEq] at hm
    obtain ⟨rfl, rfl⟩ := hm
    exact ⟨rfl, rfl⟩
  | ok p => simp [h] at hm

end Txn

end SpxSpark.Lib
