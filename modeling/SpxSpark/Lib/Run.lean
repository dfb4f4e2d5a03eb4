import Mathlib.Data.List.Basic

/-!
# Run — serial runs of a deterministic machine, and what holds along them

A machine answers each input with an output and a next state. A `Run` is one serial order of inputs,
each with the output it got; when every operation is atomic, these are exactly the interleavings of
its callers.
-/

namespace SpxSpark.Lib

open List

variable {σ ι ω : Type}

/-- Serial runs from `s₀`: the inputs taken with their outputs, and the state reached. -/
inductive Run (step : σ → ι → ω × σ) (ok : σ → ι → Prop) (s₀ : σ) : List (ι × ω) → σ → Prop
  | nil : Run step ok s₀ [] s₀
  | snoc {evs : List (ι × ω)} {s : σ} (i : ι) :
      Run step ok s₀ evs s → ok s i → Run step ok s₀ (evs ++ [(i, (step s i).1)]) (step s i).2

/-- No restriction on the inputs. -/
def anyStep : σ → ι → Prop := fun _ _ => True

namespace Run

variable {step : σ → ι → ω × σ} {ok ok' : σ → ι → Prop} {s₀ s t : σ} {evs evs' : List (ι × ω)}

theorem step_snoc (h : Run step ok s₀ evs s) {i : ι} {o : ω} (hok : ok s i)
    (hs : step s i = (o, t)) : Run step ok s₀ (evs ++ [(i, o)]) t := by
  have := h.snoc i hok
  rw [hs] at this
  exact this

theorem trans (h : Run step ok s₀ evs s) (h' : Run step ok s evs' t) :
    Run step ok s₀ (evs ++ evs') t := by
  induction h' with
  | nil =>
    rw [append_nil]
    exact h
  | snoc i _ hok ih =>
    rw [← append_assoc]
    exact ih.snoc i hok

theorem mono (hok : ∀ s i, ok s i → ok' s i) (h : Run step ok s₀ evs s) :
    Run step ok' s₀ evs s := by
  induction h with
  | nil => exact .nil
  | snoc i _ hi ih => exact ih.snoc i (hok _ _ hi)

theorem map {τ : Type} {step' : τ → ι → ω × τ} {okτ : τ → ι → Prop} (f : σ → τ)
    (hstep : ∀ s i, step' (f s) i = ((step s i).1, f (step s i).2))
    (hok : ∀ s i, ok s i → okτ (f s) i) (h : Run step ok s₀ evs s) :
    Run step' okτ (f s₀) evs (f s) := by
  induction h with
  | nil => exact .nil
  | snoc i _ hi ih => exact ih.step_snoc (hok _ i hi) (hstep _ i)

theorem invariant {I : σ → Prop} (h0 : I s₀) (hstep : ∀ s i, I s → ok s i → I (step s i).2)
    (h : Run step ok s₀ evs s) : I s := by
  induction h with
  | nil => exact h0
  | snoc i _ hok ih => exact hstep _ i ih hok

theorem invariant_log {I : List (ι × ω) → σ → Prop} (h0 : I [] s₀)
    (hstep : ∀ evs s i, I evs s → ok s i → I (evs ++ [(i, (step s i).1)]) (step s i).2)
    (h : Run step ok s₀ evs s) : I evs s := by
  induction h with
  | nil => exact h0
  | snoc i _ hok ih => exact hstep _ _ i ih hok

theorem snoc_split {α : Type} {log past rest : List α} {x last : α}
    (h : log ++ [last] = past ++ x :: rest) : past = log ∧ x = last ∧ rest = [] ∨
      ∃ before, rest = before ++ [last] ∧ log = past ++ x :: before := by
  rcases eq_nil_or_concat rest with rfl | ⟨before, y, rfl⟩
  · obtain ⟨rfl, hlast⟩ := append_inj' h rfl
    exact .inl ⟨rfl, (List.cons.inj hlast).1.symm, rfl⟩
  · rw [concat_eq_append, ← cons_append, ← append_assoc] at h
    obtain ⟨hlog, hlast⟩ := append_inj' h rfl
    obtain rfl := (List.cons.inj hlast).1
    exact .inr ⟨before, concat_eq_append, hlog⟩

theorem split {past rest : List (ι × ω)} {i : ι} {o : ω}
    (h : Run step ok s₀ (past ++ (i, o) :: rest) s) :
    ∃ s', Run step ok s₀ past s' ∧ ok s' i ∧ o = (step s' i).1 := by
  generalize hevs : past ++ (i, o) :: rest = evs at h
  induction h generalizing rest with
  | nil => simp at hevs
  | @snoc evs s j h hok ih =>
    rcases snoc_split hevs.symm with ⟨rfl, hlast, -⟩ | ⟨before, -, hbefore⟩
    · obtain ⟨rfl, rfl⟩ := Prod.mk.inj hlast
      exact ⟨s, h, hok, rfl⟩
    · exact ih hbefore.symm

theorem invariant_met {I : List (ι × ω) → σ → Prop} {P : List (ι × ω) → ι → ω → Prop}
    (h0 : I [] s₀)
    (hstep : ∀ evs s i, I evs s → P evs i (step s i).1 →
      I (evs ++ [(i, (step s i).1)]) (step s i).2)
    (h : Run step ok s₀ evs s)
    (hmet : ∀ past i o rest, evs = past ++ (i, o) :: rest → P past i o) : I evs s := by
  induction h with
  | nil => exact h0
  | @snoc evs s i _ _ ih =>
    refine hstep _ _ _ (ih fun past j o rest hevs => ?_) (hmet _ _ _ [] rfl)
    refine hmet past j o (rest ++ [(i, (step s i).1)]) ?_
    rw [hevs, append_assoc, cons_append]

theorem fired (h : Run step ok s₀ evs s) :
    ∀ ev ∈ evs, ∃ pre s', Run step ok s₀ pre s' ∧ ok s' ev.1 ∧ ev.2 = (step s' ev.1).1 := by
  induction h with
  | nil =>
    intro ev hev
    cases hev
  | @snoc evs s i h hok ih =>
    intro ev hev
    rcases mem_append.mp hev with hev | hev
    · exact ih ev hev
    · rw [mem_singleton.mp hev]
      exact ⟨evs, s, h, hok, rfl⟩

end Run

/-! ## Playing a list of inputs -/

theorem step_answered {step : σ → ι → ω × σ} {s : σ} {i : ι} {o : ω} (h : (step s i).1 = o) :
    step s i = (o, (step s i).2) := by
  rw [← h]

/-- The answers to a list of inputs, and the state they lead to. -/
def play (step : σ → ι → ω × σ) (s : σ) : List ι → List (ι × ω) × σ
  | [] => ([], s)
  | i :: is => ((i, (step s i).1) :: (play step (step s i).2 is).1, (play step (step s i).2 is).2)

/-- Each input may be taken when its turn comes. -/
def Allowed (step : σ → ι → ω × σ) (ok : σ → ι → Prop) : σ → List ι → Prop
  | _, [] => True
  | s, i :: is => ok s i ∧ Allowed step ok (step s i).2 is

instance {s : σ} {i : ι} : Decidable (anyStep s i) := .isTrue trivial

instance Allowed.decidable {step : σ → ι → ω × σ} {ok : σ → ι → Prop}
    [∀ s i, Decidable (ok s i)] : ∀ (s : σ) (is : List ι), Decidable (Allowed step ok s is)
  | _, [] => .isTrue trivial
  | s, i :: is =>
    have : Decidable (Allowed step ok (step s i).2 is) := Allowed.decidable _ is
    inferInstanceAs (Decidable (ok s i ∧ Allowed step ok (step s i).2 is))

theorem allowed_anyStep {step : σ → ι → ω × σ} : ∀ (is : List ι) (s : σ), Allowed step anyStep s is
  | [], _ => trivial
  | _ :: is, _ => ⟨trivial, allowed_anyStep is _⟩

theorem mem_play {step : σ → ι → ω × σ} {i : ι} {o : ω} : ∀ {is : List ι} {s : σ} {k : Nat},
    is[k]? = some i → (play step s is).1[k]?.map (·.2) = some o → (i, o) ∈ (play step s is).1
  | [], _, _, h, _ => nomatch h
  | _ :: _, _, 0, hi, ho => by
      cases hi
      cases ho
      exact mem_cons_self
  | _ :: _, _, _ + 1, hi, ho => mem_cons_of_mem _ (mem_play hi ho)

theorem play_snoc {step : σ → ι → ω × σ} (i : ι) : ∀ (is : List ι) (s : σ),
    (play step s (is ++ [i])).1 = (play step s is).1 ++ [(i, (step (play step s is).2 i).1)]
  | [], _ => rfl
  | _ :: is, _ => congrArg (_ :: ·) (play_snoc i is _)

theorem play_append {step : σ → ι → ω × σ} (js : List ι) : ∀ (is : List ι) (s : σ),
    (play step s (is ++ js)).1 = (play step s is).1 ++ (play step (play step s is).2 js).1
  | [], _ => rfl
  | _ :: is, _ => congrArg (_ :: ·) (play_append js is _)

theorem play_append_state {step : σ → ι → ω × σ} (js : List ι) : ∀ (is : List ι) (s : σ),
    (play step s (is ++ js)).2 = (play step (play step s is).2 js).2
  | [], _ => rfl
  | _ :: is, _ => play_append_state js is _

theorem forall_split_iff {α : Type} {l : List α} {P : List α → α → Prop} :
    (∀ past x rest, l = past ++ x :: rest → P past x) ↔
      ∀ n, ∀ h : n < l.length, P (l.take n) l[n] := by
  constructor
  · intro h n hn
    refine h (l.take n) l[n] (l.drop (n + 1)) ?_
    rw [← drop_eq_getElem_cons hn, take_append_drop]
  · rintro h past x rest rfl
    simpa using h past.length (by simp)

theorem Run.play {step : σ → ι → ω × σ} {ok : σ → ι → Prop} :
    ∀ {is : List ι} {s : σ}, Allowed step ok s is →
      Run step ok s (play step s is).1 (play step s is).2
  | [], _, _ => .nil
  | i :: _, s, h => by
      have hfirst : Run step ok s [(i, (step s i).1)] (step s i).2 := Run.nil.snoc i h.1
      exact hfirst.trans (Run.play h.2)

theorem run_play (step : σ → ι → ω × σ) (is : List ι) (s : σ) :
    Run step anyStep s (play step s is).1 (play step s is).2 :=
  Run.play (allowed_anyStep is s)

end SpxSpark.Lib
