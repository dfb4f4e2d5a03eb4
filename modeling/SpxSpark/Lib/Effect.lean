import Mathlib.Data.List.Basic

/-!
# Effect — programs whose effects outlive a failure

Unlike a transaction, a program over files and sockets keeps what it did before it failed.
-/

namespace SpxSpark.Lib

variable {σ ε α β : Type}

/-- A program over `σ` that may fail with `ε`, leaving the state it had reached. -/
abbrev Effect (σ ε α : Type) := EStateM ε σ α

namespace Effect

/-- Weakest precondition: `Q` at a normal end, `E` at a failure. -/
def wp (m : Effect σ ε α) (Q : α → σ → Prop) (E : ε → σ → Prop) (s : σ) : Prop :=
  match m s with
  | .ok a s' => Q a s'
  | .error e s' => E e s'

variable {Q Q' : α → σ → Prop} {R : β → σ → Prop} {E E' : ε → σ → Prop} {s : σ}

@[simp]
theorem wp_pure (a : α) : wp (pure a : Effect σ ε α) Q E s ↔ Q a s := Iff.rfl

@[simp]
theorem wp_throw (e : ε) : wp (throw e : Effect σ ε α) Q E s ↔ E e s := Iff.rfl

@[simp]
theorem wp_bind (m : Effect σ ε α) (f : α → Effect σ ε β) :
    wp (m >>= f) R E s ↔ wp m (fun a t => wp (f a) R E t) E s := by
  simp only [wp, bind, EStateM.bind]
  cases m s with
  | ok a t => exact Iff.rfl
  | error e t => exact Iff.rfl

@[simp]
theorem wp_get {Q : σ → σ → Prop} : wp (get : Effect σ ε σ) Q E s ↔ Q s s := Iff.rfl

@[simp]
theorem wp_modify {Q : PUnit → σ → Prop} (f : σ → σ) :
    wp (modify f : Effect σ ε PUnit) Q E s ↔ Q ⟨⟩ (f s) := Iff.rfl

@[simp]
theorem wp_ite (c : Prop) [Decidable c] (m n : Effect σ ε α) :
    wp (if c then m else n) Q E s ↔ (c → wp m Q E s) ∧ (¬ c → wp n Q E s) := by
  by_cases h : c <;> simp [h]

theorem wp_mono {m : Effect σ ε α} (hQ : ∀ a t, Q a t → Q' a t) (hE : ∀ e t, E e t → E' e t)
    (h : wp m Q E s) : wp m Q' E' s := by
  unfold wp at h ⊢
  cases hm : m s with
  | ok a t =>
    rw [hm] at h
    exact hQ a t h
  | error e t =>
    rw [hm] at h
    exact hE e t h

/-- The state a program leaves, however it ends. -/
def final (m : Effect σ ε α) (s : σ) : σ :=
  match m s with
  | .ok _ s' => s'
  | .error _ s' => s'

theorem wp_final {I : σ → Prop} {m : Effect σ ε α} (h : wp m (fun _ => I) (fun _ => I) s) :
    I (m.final s) := by
  unfold wp at h
  unfold final
  cases hm : m s with
  | ok a t =>
    rw [hm] at h
    exact h
  | error e t =>
    rw [hm] at h
    exact h

/-- A program as one step of a machine: what it answers, and the state it leaves. -/
def answer (m : Effect σ ε α) (s : σ) : Except ε α × σ :=
  match m s with
  | .ok a s' => (.ok a, s')
  | .error e s' => (.error e, s')

theorem wp_answer {m : Effect σ ε α} (h : wp m Q E s) :
    (∃ a, (m.answer s).1 = .ok a ∧ Q a (m.answer s).2) ∨
      ∃ e, (m.answer s).1 = .error e ∧ E e (m.answer s).2 := by
  unfold wp at h
  unfold answer
  cases hm : m s with
  | ok a t =>
    rw [hm] at h
    exact .inl ⟨a, rfl, h⟩
  | error e t =>
    rw [hm] at h
    exact .inr ⟨e, rfl, h⟩

end Effect

end SpxSpark.Lib
