import SpxSpark.Lib.Run

/-!
# Program — processes that can be stopped at any call, among others that act

A `Program` is the code of a process: a value, an exception, or a call whose answer decides how it
goes on.
-/

namespace SpxSpark.Lib

/-- The code of a process: it ends with a value or an exception, or makes a call and goes on from
the answer. -/
inductive Program (Call : Type) (Ans : Call → Type) (ε α : Type) where
  | done (a : α)
  | raise (e : ε)
  | call (c : Call) (next : Except ε (Ans c) → Program Call Ans ε α)

variable {Call : Type} {Ans : Call → Type} {ε σ φ α β : Type}

namespace Program

/-- Go on with the value; an exception ends the whole. -/
def bind : Program Call Ans ε α → (α → Program Call Ans ε β) → Program Call Ans ε β
  | .done a, f => f a
  | .raise e, _ => .raise e
  | .call c next, f => .call c fun answer => (next answer).bind f

instance : Monad (Program Call Ans ε) where
  pure := .done
  bind := bind

/-- `try … except`: the handler takes over where the program raised. -/
def handle : Program Call Ans ε α → (ε → Program Call Ans ε α) → Program Call Ans ε α
  | .done a, _ => .done a
  | .raise e, handler => handler e
  | .call c next, handler => .call c fun answer => (next answer).handle handler

/-- One call; an error it answers with is raised. -/
def perform (c : Call) : Program Call Ans ε (Ans c) :=
  .call c fun
    | .ok a => .done a
    | .error e => .raise e

/-- The value, or the exception if `caught` says that it is handled here. -/
def attempt (caught : ε → Bool) (p : Program Call Ans ε α) : Program Call Ans ε (Except ε α) :=
  (p.bind fun a => .done (.ok a)).handle fun e =>
    if caught e then .done (.error e) else .raise e

end Program

/-! ## What calls do, and what is asked of them -/

/-- The world outside the process: what a call answers and leaves, and what it leaves when the
process is stopped inside it. `φ` is how the call goes. -/
structure Host (Call : Type) (Ans : Call → Type) (ε σ φ : Type) where
  perform : (c : Call) → φ → σ → Except ε (Ans c) × σ
  cut : Call → φ → σ → σ

/-- What holds at every point, what others may do, and when a call may be made. -/
structure Discipline (Call σ : Type) where
  inv : σ → Prop
  rely : σ → σ → Prop
  safe : Call → σ → Prop

namespace Program

variable (host : Host Call Ans ε σ φ) (rule : Discipline Call σ)

/-- From here every call is made where it is safe, whatever others do in between; a value leaves
`Q`, an exception `E`. -/
def wp : Program Call Ans ε α → (α → σ → Prop) → (ε → σ → Prop) → σ → Prop
  | .done a, Q, _, s => Q a s
  | .raise e, _, E, s => E e s
  | .call c next, Q, E, s => ∀ t, rule.rely s t → rule.inv t → rule.safe c t ∧
      ∀ f, (next (host.perform c f t).1).wp Q E (host.perform c f t).2

variable {host rule} {Q Q' : α → σ → Prop} {R : β → σ → Prop} {E E' : ε → σ → Prop} {s : σ}

theorem wp_bind' (p : Program Call Ans ε α) (f : α → Program Call Ans ε β) :
    ∀ s, wp host rule (p.bind f) R E s ↔
      wp host rule p (fun a t => wp host rule (f a) R E t) E s := by
  induction p with
  | done a => exact fun _ => Iff.rfl
  | raise e => exact fun _ => Iff.rfl
  | call c next ih =>
    intro s
    simp only [bind, wp, ih]

@[simp]
theorem wp_bind (p : Program Call Ans ε α) (f : α → Program Call Ans ε β) :
    wp host rule (p >>= f) R E s ↔ wp host rule p (fun a t => wp host rule (f a) R E t) E s :=
  wp_bind' p f s

@[simp]
theorem wp_handle (p : Program Call Ans ε α) (handler : ε → Program Call Ans ε α) :
    ∀ s, wp host rule (p.handle handler) Q E s ↔
      wp host rule p Q (fun e t => wp host rule (handler e) Q E t) s := by
  induction p with
  | done a => exact fun _ => Iff.rfl
  | raise e => exact fun _ => Iff.rfl
  | call c next ih =>
    intro s
    simp only [handle, wp, ih]

theorem wp_mono (hQ : ∀ a t, Q a t → Q' a t) (hE : ∀ e t, E e t → E' e t)
    {p : Program Call Ans ε α} :
    ∀ {s}, wp host rule p Q E s → wp host rule p Q' E' s := by
  induction p with
  | done a => exact fun h => hQ a _ h
  | raise e => exact fun h => hE e _ h
  | call c next ih =>
    intro s h t hrely hinv
    obtain ⟨hsafe, hnext⟩ := h t hrely hinv
    exact ⟨hsafe, fun f => ih _ (hnext f)⟩

theorem wp_perform {c : Call} {Q : Ans c → σ → Prop}
    (h : ∀ t, rule.rely s t → rule.inv t → rule.safe c t ∧ ∀ f,
      (∀ a, (host.perform c f t).1 = .ok a → Q a (host.perform c f t).2) ∧
        ∀ e, (host.perform c f t).1 = .error e → E e (host.perform c f t).2) :
    wp host rule (Program.perform c) Q E s := by
  intro t hrely hinv
  obtain ⟨hsafe, hgoes⟩ := h t hrely hinv
  refine ⟨hsafe, fun f => ?_⟩
  obtain ⟨hok, herror⟩ := hgoes f
  cases hanswer : (host.perform c f t).1 with
  | ok a => exact hok a hanswer
  | error e => exact herror e hanswer

theorem wp_attempt {caught : ε → Bool} {p : Program Call Ans ε α} {Q : Except ε α → σ → Prop}
    (h : wp host rule p (fun a => Q (.ok a))
      (fun e t => (caught e = true → Q (.error e) t) ∧ (caught e = false → E e t)) s) :
    wp host rule (p.attempt caught) Q E s := by
  unfold attempt
  rw [wp_handle, wp_bind']
  refine wp_mono (fun _ _ hq => hq) (fun e t he => ?_) h
  cases hcaught : caught e with
  | true => exact he.1 hcaught
  | false => exact he.2 hcaught

/-- Every call the program can come to meets `P`. -/
def Only (P : Call → Prop) : Program Call Ans ε α → Prop
  | .done _ => True
  | .raise _ => True
  | .call c next => P c ∧ ∀ answer, (next answer).Only P

section Only

variable {P : Call → Prop}

@[simp]
theorem only_perform {c : Call} : (perform c : Program Call Ans ε (Ans c)).Only P ↔ P c := by
  refine ⟨And.left, fun h => ⟨h, fun answer => ?_⟩⟩
  cases answer with
  | ok a => trivial
  | error e => trivial

variable {p : Program Call Ans ε α}

theorem Only.mono {P' : Call → Prop} (hP : ∀ c, P c → P' c) : p.Only P → p.Only P' := by
  induction p with
  | done a => exact id
  | raise e => exact id
  | call c next ih => exact fun h => ⟨hP c h.1, fun answer => ih answer (h.2 answer)⟩

variable {f : α → Program Call Ans ε β}

theorem Only.bind' (hp : p.Only P) (hf : ∀ a, (f a).Only P) : (p.bind f).Only P := by
  induction p with
  | done a => exact hf a
  | raise e => trivial
  | call c next ih => exact ⟨hp.1, fun answer => ih answer (hp.2 answer)⟩

theorem Only.bind (hp : p.Only P) (hf : ∀ a, (f a).Only P) : (p >>= f).Only P :=
  hp.bind' hf

theorem Only.attempt {caught : ε → Bool} (hp : p.Only P) : (p.attempt caught).Only P := by
  unfold Program.attempt
  have hvalue : (p.bind fun a => (.done (.ok a) : Program Call Ans ε (Except ε α))).Only P :=
    hp.bind' fun _ => trivial
  generalize (p.bind fun a => (.done (.ok a) : Program Call Ans ε (Except ε α))) = q at hvalue
  induction q with
  | done a => trivial
  | raise e =>
    show (if caught e then .done (.error e) else .raise e :
      Program Call Ans ε (Except ε α)).Only P
    split
    · trivial
    · trivial
  | call c next ih => exact ⟨hvalue.1, fun answer => ih answer (hvalue.2 answer)⟩

theorem Only.keeps {J : σ → Prop} (hrely : ∀ s t, J s → rule.rely s t → J t)
    (hcalls : ∀ c, P c → ∀ t, rule.inv t → J t → rule.safe c t ∧ ∀ f, J (host.perform c f t).2) :
    ∀ {s}, p.Only P → J s → p.wp host rule (fun _ t => J t) (fun _ t => J t) s := by
  induction p with
  | done a => exact fun _ h => h
  | raise e => exact fun _ h => h
  | call c next ih =>
    intro s hp hs t hrel hinv
    obtain ⟨hsafe, heffect⟩ := hcalls c hp.1 t hinv (hrely s t hs hrel)
    exact ⟨hsafe, fun f => ih _ (hp.2 _) (heffect f)⟩

end Only

/-- Every value the program can come to return meets `P`. -/
def Yields (P : α → Prop) : Program Call Ans ε α → Prop
  | .done a => P a
  | .raise _ => True
  | .call _ next => ∀ answer, (next answer).Yields P

section Yields

variable {P : α → Prop}

variable {p : Program Call Ans ε α}

theorem Yields.any (h : ∀ a, P a) : p.Yields P := by
  induction p with
  | done a => exact h a
  | raise e => trivial
  | call c next ih => exact fun answer => ih answer

theorem Yields.bind' {P' : β → Prop} (hp : p.Yields P) (hf : ∀ a, P a → (f a).Yields P') :
    (p.bind f).Yields P' := by
  induction p with
  | done a => exact hf a hp
  | raise e => trivial
  | call c next ih => exact fun answer => ih answer (hp answer)

theorem Yields.bind {P' : β → Prop} (hp : p.Yields P) (hf : ∀ a, P a → (f a).Yields P') :
    (p >>= f).Yields P' :=
  hp.bind' hf

theorem Yields.attempt {caught : ε → Bool} (hp : p.Yields P) :
    (p.attempt caught).Yields fun answer => ∀ a, answer = .ok a → P a := by
  unfold Program.attempt
  have hvalue : (p.bind fun a => (.done (.ok a) : Program Call Ans ε (Except ε α))).Yields
      fun answer => ∀ a, answer = .ok a → P a :=
    hp.bind' fun a ha b hb => Except.ok.inj hb ▸ ha
  generalize (p.bind fun a => (.done (.ok a) : Program Call Ans ε (Except ε α))) = q at hvalue
  induction q with
  | done a => exact hvalue
  | raise e =>
    show (if caught e then .done (.error e) else .raise e :
      Program Call Ans ε (Except ε α)).Yields _
    split
    · exact nofun
    · trivial
  | call c next ih => exact fun answer => ih answer (hvalue answer)

/-- What is known of the value goes with what is known of the state. -/
theorem Yields.wp :
    ∀ {s}, p.Yields P → p.wp host rule Q E s → p.wp host rule (fun a t => P a ∧ Q a t) E s := by
  induction p with
  | done a => exact fun hp h => ⟨hp, h⟩
  | raise e => exact fun _ h => h
  | call c next ih =>
    intro s hp h t hrely hinv
    obtain ⟨hsafe, hnext⟩ := h t hrely hinv
    exact ⟨hsafe, fun f => ih _ (hp _) (hnext f)⟩

end Yields

theorem wp_rely (htrans : ∀ {a b c : σ}, rule.rely a b → rule.rely b c → rule.rely a c) {t : σ}
    (hrely : rule.rely s t) : ∀ {p : Program Call Ans ε α},
    wp host rule p (fun _ _ => True) (fun _ _ => True) s →
      wp host rule p (fun _ _ => True) (fun _ _ => True) t := by
  intro p
  cases p with
  | done a => exact id
  | raise e => exact id
  | call c next => exact fun h u hu => h u (htrans hrely hu)

end Program

/-! ## Jobs that run one at a time -/

/-- The jobs of a process, the world they run in, and what others do to it. -/
structure System (Call : Type) (Ans : Call → Type) (ε σ φ ι η ω : Type) where
  host : Host Call Ans ε σ φ
  job : ι → Program Call Ans ε ω
  others : η → σ → σ

/-- The world, and what is left to do of the job that runs. -/
structure Process (Call : Type) (Ans : Call → Type) (ε σ ι ω : Type) where
  world : σ
  running : Option (ι × Program Call Ans ε ω)

/-- What happens next. A job starts only when none runs: they share one lock. -/
inductive Turn (ι η φ : Type)
  | start (i : ι)
  | others (e : η)
  | call (f : φ)
  | stop (f : φ)

namespace System

variable {ι η ω : Type} (sys : System Call Ans ε σ φ ι η ω)

/-- The running job makes its next call, or is over. -/
def callNext (f : φ) (p : Process Call Ans ε σ ι ω) : Process Call Ans ε σ ι ω :=
  match p.running with
  | some (i, .call c next) =>
    let (answer, world) := sys.host.perform c f p.world
    ⟨world, some (i, next answer)⟩
  | _ => ⟨p.world, none⟩

/-- The process is stopped, inside the call it was about to make. -/
def stopHere (f : φ) (p : Process Call Ans ε σ ι ω) : Process Call Ans ε σ ι ω :=
  match p.running with
  | some (_, .call c _) => ⟨sys.host.cut c f p.world, none⟩
  | _ => ⟨p.world, none⟩

def step (p : Process Call Ans ε σ ι ω) : Turn ι η φ → Unit × Process Call Ans ε σ ι ω
  | .start i => ((), if p.running.isNone then ⟨p.world, some (i, sys.job i)⟩ else p)
  | .others e => ((), ⟨sys.others e p.world, p.running⟩)
  | .call f => ((), sys.callNext f p)
  | .stop f => ((), sys.stopHere f p)

/-- Others act only where `allowed` says so. -/
def turnAllowed (allowed : σ → η → Prop) (p : Process Call Ans ε σ ι ω) : Turn ι η φ → Prop
  | .others e => allowed p.world e
  | _ => True

/-- What a discipline has to establish of a system. -/
structure Kept (allowed : σ → η → Prop) (inv : σ → Prop) (rely : σ → σ → Prop)
    (safe : ι → Call → σ → Prop) : Prop where
  refl : ∀ s, rely s s
  trans : ∀ {a b c}, rely a b → rely b c → rely a c
  others : ∀ s e, inv s → allowed s e → rely s (sys.others e s) ∧ inv (sys.others e s)
  perform : ∀ i c f s, inv s → safe i c s → inv (sys.host.perform c f s).2
  cut : ∀ i c f s, inv s → safe i c s → inv (sys.host.cut c f s)
  job : ∀ i s, inv s →
    (sys.job i).wp sys.host ⟨inv, rely, safe i⟩ (fun _ _ => True) (fun _ _ => True) s

variable {sys} {allowed : σ → η → Prop} {inv : σ → Prop} {rely : σ → σ → Prop}
  {safe : ι → Call → σ → Prop}

/-- The invariant, and every further call of the running job safe. -/
def Secured (sys : System Call Ans ε σ φ ι η ω) (inv : σ → Prop) (rely : σ → σ → Prop)
    (safe : ι → Call → σ → Prop) (p : Process Call Ans ε σ ι ω) : Prop :=
  inv p.world ∧ ∀ i prog, p.running = some (i, prog) →
    prog.wp sys.host ⟨inv, rely, safe i⟩ (fun _ _ => True) (fun _ _ => True) p.world

theorem Secured.idle {s : σ} (h : inv s) : Secured sys inv rely safe ⟨s, none⟩ :=
  ⟨h, nofun⟩

theorem Secured.safe_next (hkept : sys.Kept allowed inv rely safe) {p : Process Call Ans ε σ ι ω}
    (h : Secured sys inv rely safe p) {i : ι} {c : Call} {next}
    (hrunning : p.running = some (i, .call c next)) : safe i c p.world :=
  (h.2 i _ hrunning p.world (hkept.refl _) h.1).1

theorem Secured.step (hkept : sys.Kept allowed inv rely safe) {p : Process Call Ans ε σ ι ω}
    (h : Secured sys inv rely safe p) (turn : Turn ι η φ) (hallowed : turnAllowed allowed p turn) :
    Secured sys inv rely safe (sys.step p turn).2 := by
  obtain ⟨world, running⟩ := p
  cases turn with
  | start i =>
    cases running with
    | some r => exact h
    | none =>
      refine ⟨h.1, fun j prog hprog => ?_⟩
      obtain ⟨rfl, rfl⟩ := Prod.mk.inj (Option.some.inj hprog)
      exact hkept.job i world h.1
  | others e =>
    obtain ⟨hrely, hinv⟩ := hkept.others world e h.1 hallowed
    exact ⟨hinv, fun i prog hprog => Program.wp_rely hkept.trans hrely (h.2 i prog hprog)⟩
  | call f =>
    -- only a job that still has a call to make changes the world
    rcases running with _ | ⟨i, _ | _ | ⟨c, next⟩⟩
    · exact Secured.idle h.1
    · exact Secured.idle h.1
    · exact Secured.idle h.1
    · obtain ⟨hsafe, hnext⟩ := h.2 i _ rfl world (hkept.refl _) h.1
      refine ⟨hkept.perform i c f world h.1 hsafe, fun j prog hprog => ?_⟩
      obtain ⟨rfl, rfl⟩ := Prod.mk.inj (Option.some.inj hprog)
      exact hnext f
  | stop f =>
    rcases running with _ | ⟨i, _ | _ | ⟨c, next⟩⟩
    · exact Secured.idle h.1
    · exact Secured.idle h.1
    · exact Secured.idle h.1
    · exact Secured.idle (hkept.cut i c f world h.1 (h.safe_next hkept rfl))

/-- **A disciplined system stays secured**, in every run from a state of the invariant. -/
theorem sound (hkept : sys.Kept allowed inv rely safe) {s₀ : σ} (h0 : inv s₀) {evs}
    {p : Process Call Ans ε σ ι ω}
    (hrun : Run sys.step (turnAllowed allowed) ⟨s₀, none⟩ evs p) : Secured sys inv rely safe p :=
  hrun.invariant (I := Secured sys inv rely safe) (Secured.idle h0)
    (fun _ turn h hallowed => h.step hkept turn hallowed)

theorem allowed_own {turns : List (Turn ι η φ)} (h : ∀ e, .others e ∉ turns) :
    ∀ p : Process Call Ans ε σ ι ω, Allowed sys.step (turnAllowed allowed) p turns := by
  induction turns with
  | nil => exact fun _ => trivial
  | cons turn turns ih =>
    refine fun p => ⟨?_, ih (fun e he => h e (List.mem_cons_of_mem _ he)) _⟩
    cases turn with
    | others e => exact absurd List.mem_cons_self (h e)
    | start i => trivial
    | call f => trivial
    | stop f => trivial

end System

end SpxSpark.Lib
