import SpxSpark.Lib.Program

/-!
# Crew — jobs that run at the same time

The jobs of a `System`, any number of them running side by side in one world. What each job's calls
do must be among the things that the others rely on: `Guarded`.
-/

namespace SpxSpark.Lib

variable {Call : Type} {Ans : Call → Type} {ε σ φ ι η ω : Type}

/-- The world, and what is left to do of the job of each process. -/
structure Crew (Call : Type) (Ans : Call → Type) (ε σ ι ω : Type) where
  world : σ
  running : Nat → Option (ι × Program Call Ans ε ω)

/-- The job of one process, in the world that all share. -/
def Crew.alone (crew : Crew Call Ans ε σ ι ω) (process : Nat) : Process Call Ans ε σ ι ω :=
  ⟨crew.world, crew.running process⟩

/-- The crew after a process took a turn. -/
def Crew.joined (crew : Crew Call Ans ε σ ι ω) (process : Nat) (p : Process Call Ans ε σ ι ω) :
    Crew Call Ans ε σ ι ω :=
  ⟨p.world, Function.update crew.running process p.running⟩

/-- What happens next: a process starts a job, makes a call or is stopped, or others act. -/
inductive CrewTurn (ι η φ : Type)
  | start (process : Nat) (i : ι)
  | others (e : η)
  | call (process : Nat) (f : φ)
  | stop (process : Nat) (f : φ)

namespace System

variable (sys : System Call Ans ε σ φ ι η ω)

def crewStep (crew : Crew Call Ans ε σ ι ω) : CrewTurn ι η φ → Unit × Crew Call Ans ε σ ι ω
  | .start process i => ((), crew.joined process (sys.step (crew.alone process) (.start i)).2)
  | .others e => ((), ⟨sys.others e crew.world, crew.running⟩)
  | .call process f => ((), crew.joined process (sys.callNext f (crew.alone process)))
  | .stop process f => ((), crew.joined process (sys.stopHere f (crew.alone process)))

/-- Others act only where `allowed` says so. -/
def crewAllowed (allowed : σ → η → Prop) (crew : Crew Call Ans ε σ ι ω) : CrewTurn ι η φ → Prop
  | .others e => allowed crew.world e
  | _ => True

/-- What a safe call does, and what it leaves when it is cut short, is what the others rely on. -/
structure Guarded (inv : σ → Prop) (rely : σ → σ → Prop) (safe : ι → Call → σ → Prop) : Prop where
  perform : ∀ i c f s, inv s → safe i c s → rely s (sys.host.perform c f s).2
  cut : ∀ i c f s, inv s → safe i c s → rely s (sys.host.cut c f s)

variable {sys} {allowed : σ → η → Prop} {inv : σ → Prop} {rely : σ → σ → Prop}
  {safe : ι → Call → σ → Prop}

/-- Every process of the crew is secured. -/
def CrewSecured (sys : System Call Ans ε σ φ ι η ω) (inv : σ → Prop) (rely : σ → σ → Prop)
    (safe : ι → Call → σ → Prop) (crew : Crew Call Ans ε σ ι ω) : Prop :=
  ∀ process, Secured sys inv rely safe (crew.alone process)

section

variable (hkept : sys.Kept allowed inv rely safe)

include hkept

theorem Secured.moves (hguard : sys.Guarded inv rely safe)
    {p : Process Call Ans ε σ ι ω} (h : Secured sys inv rely safe p) (turn : Turn ι η φ)
    (hallowed : turnAllowed allowed p turn) : rely p.world (sys.step p turn).2.world := by
  obtain ⟨world, running⟩ := p
  cases turn with
  | start i =>
    cases running with
    | none => exact hkept.refl world
    | some r => exact hkept.refl world
  | others e => exact (hkept.others world e h.1 hallowed).1
  | call f =>
    rcases running with _ | ⟨i, _ | _ | ⟨c, next⟩⟩
    · exact hkept.refl world
    · exact hkept.refl world
    · exact hkept.refl world
    · exact hguard.perform i c f world h.1 (h.safe_next hkept rfl)
  | stop f =>
    rcases running with _ | ⟨i, _ | _ | ⟨c, next⟩⟩
    · exact hkept.refl world
    · exact hkept.refl world
    · exact hkept.refl world
    · exact hguard.cut i c f world h.1 (h.safe_next hkept rfl)

variable {crew : Crew Call Ans ε σ ι ω}

theorem CrewSecured.joined
    (hguard : sys.Guarded inv rely safe) (h : CrewSecured sys inv rely safe crew) (process : Nat)
    (turn : Turn ι η φ) (hallowed : turnAllowed allowed (crew.alone process) turn) :
    CrewSecured sys inv rely safe (crew.joined process (sys.step (crew.alone process) turn).2) := by
  intro other
  have hstep := (h process).step hkept turn hallowed
  by_cases hother : other = process
  · subst hother
    refine ⟨hstep.1, fun i prog hprog => hstep.2 i prog ?_⟩
    have hrunning := Function.update_self other
      (sys.step (crew.alone other) turn).2.running crew.running
    exact hrunning.symm.trans hprog
  · refine ⟨hstep.1, fun i prog hprog => ?_⟩
    have hrunning : crew.running other = some (i, prog) :=
      (Function.update_of_ne hother _ crew.running).symm.trans hprog
    exact Program.wp_rely hkept.trans ((h process).moves hkept hguard turn hallowed)
      ((h other).2 i prog hrunning)

theorem CrewSecured.step
    (hguard : sys.Guarded inv rely safe) (h : CrewSecured sys inv rely safe crew)
    (turn : CrewTurn ι η φ) (hallowed : crewAllowed allowed crew turn) :
    CrewSecured sys inv rely safe (sys.crewStep crew turn).2 := by
  cases turn with
  | start process i => exact h.joined hkept hguard process (.start i) trivial
  | call process f => exact h.joined hkept hguard process (.call f) trivial
  | stop process f => exact h.joined hkept hguard process (.stop f) trivial
  | others e =>
    exact fun process => (h process).step hkept (.others e) hallowed

/-- **A disciplined crew stays secured**, in every interleaving from a state of the invariant. -/
theorem sound_crew (hguard : sys.Guarded inv rely safe)
    {s₀ : σ} (h0 : inv s₀) {evs}
    (hrun : Run sys.crewStep (crewAllowed allowed) ⟨s₀, fun _ => none⟩ evs crew) :
    CrewSecured sys inv rely safe crew :=
  hrun.invariant (I := CrewSecured sys inv rely safe) (fun _ => Secured.idle h0)
    (fun _ turn h hallowed => h.step hkept hguard turn hallowed)

theorem CrewSecured.own_turn (h : CrewSecured sys inv rely safe crew) {turn : CrewTurn ι η φ}
    (hown : ∀ e, turn ≠ .others e) : (sys.crewStep crew turn).2.world = crew.world ∨
      ∃ i c f, inv crew.world ∧ safe i c crew.world ∧
        ((sys.crewStep crew turn).2.world = (sys.host.perform c f crew.world).2 ∨
          (sys.crewStep crew turn).2.world = sys.host.cut c f crew.world) := by
  cases turn with
  | others e => exact absurd rfl (hown e)
  | start process i =>
    refine .inl ?_
    show (if (crew.running process).isNone then _ else crew.alone process).world = crew.world
    split
    · rfl
    · rfl
  | call process f =>
    cases hrunning : crew.running process with
    | none => exact .inl (by simp only [crewStep, callNext, Crew.alone, Crew.joined, hrunning])
    | some job =>
      obtain ⟨i, _ | _ | ⟨c, next⟩⟩ := job
      · exact .inl (by simp only [crewStep, callNext, Crew.alone, Crew.joined, hrunning])
      · exact .inl (by simp only [crewStep, callNext, Crew.alone, Crew.joined, hrunning])
      · refine .inr ⟨i, c, f, (h process).1, (h process).safe_next hkept hrunning, .inl ?_⟩
        simp only [crewStep, callNext, Crew.alone, Crew.joined, hrunning]
  | stop process f =>
    cases hrunning : crew.running process with
    | none => exact .inl (by simp only [crewStep, stopHere, Crew.alone, Crew.joined, hrunning])
    | some job =>
      obtain ⟨i, _ | _ | ⟨c, next⟩⟩ := job
      · exact .inl (by simp only [crewStep, stopHere, Crew.alone, Crew.joined, hrunning])
      · exact .inl (by simp only [crewStep, stopHere, Crew.alone, Crew.joined, hrunning])
      · refine .inr ⟨i, c, f, (h process).1, (h process).safe_next hkept hrunning, .inr ?_⟩
        simp only [crewStep, stopHere, Crew.alone, Crew.joined, hrunning]

end

theorem crewAllowed_own {turns : List (CrewTurn ι η φ)} (h : ∀ e, .others e ∉ turns) :
    ∀ crew : Crew Call Ans ε σ ι ω, Allowed sys.crewStep (crewAllowed allowed) crew turns := by
  induction turns with
  | nil => exact fun _ => trivial
  | cons turn turns ih =>
    refine fun crew => ⟨?_, ih (fun e he => h e (List.mem_cons_of_mem _ he)) _⟩
    cases turn with
    | others e => exact absurd List.mem_cons_self (h e)
    | start process i => trivial
    | call process f => trivial
    | stop process f => trivial

end System

end SpxSpark.Lib
