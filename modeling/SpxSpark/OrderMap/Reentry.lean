import SpxSpark.OrderMap.LevelSteps

/-!
# Reentry — what the re-entry generation counts

The generation of an armed event is meant to be the number of events that ended before it in its
session.
-/

namespace SpxSpark.OrderMap

open Lib

variable {settings : LevelDecisionSettings} {log : Log} {s : Option LevelState}

/-! ## Sessions, terminal events and the owner of the counter -/

/-- A session, by its date and mode. -/
abbrev Session := String × String

def LevelObservation.session (o : LevelObservation) : Session := (o.sessionDate, o.sessionMode)

def LevelEvent.session (e : LevelEvent) : Session := (e.sessionDate, e.sessionMode)

@[simp] theorem armedEvent_session (o : LevelObservation) (spot es : ℚ)
    (settings : LevelDecisionSettings) (generation : ℕ) (kind : LevelKind) (level : ℚ) :
    (armedEvent o spot es settings generation kind level).session = o.session := by
  simp [LevelEvent.session, LevelObservation.session]

theorem Continues.session {e e' : LevelEvent} (h : Continues e e') : e'.session = e.session := by
  rw [LevelEvent.session, h.sessionDate, h.sessionMode]
  rfl

/-- The event of a state belongs to the session. -/
def LevelState.inSession (session : Session) : LevelState → Bool
  | .far _ => false
  | .event e => e.session = session

def LevelTransition.endsIn (session : Session) (t : LevelTransition) : Bool :=
  t.ends && t.state.inSession session

/-- The events of a session that have ended so far. -/
def terminals (log : Log) (session : Session) : ℕ := log.countP fun x => x.2.endsIn session

/-- The transition puts the counter back to zero. -/
def LevelTransition.resets (t : LevelTransition) : Bool :=
  t.changed && t.reason = "session_boundary_reset"

/-- The session the carried counter belongs to, after one more transition: that of the event at
hand, and in FAR that of the last one, unless the counter was reset. -/
def ownerAfter (owner : Option Session) (t : LevelTransition) : Option Session :=
  match t.state with
  | .event e => some e.session
  | .far _ => if t.resets then none else owner

def owner (log : Log) : Option Session := log.foldl (fun owner x => ownerAfter owner x.2) none

@[simp] theorem owner_append (log : Log) (x : LevelObservation × LevelTransition) :
    owner (log ++ [x]) = ownerAfter (owner log) x.2 := by
  simp [owner]

@[simp] theorem terminals_append (log : Log) (x : LevelObservation × LevelTransition)
    (session : Session) :
    terminals (log ++ [x]) session = terminals log session +
      if x.2.endsIn session then 1 else 0 := by
  simp [terminals, List.countP_append, List.countP_singleton]

/-- The law: every event is armed with the number of terminal events of its session as its
generation. -/
def GenerationsCount (log : Log) : Prop :=
  ∀ past o t rest e, log = past ++ (o, t) :: rest → t.arms → t.state = .event e →
    e.reentryGeneration = terminals past o.session

def stateAfter (log : Log) : Option LevelState := log.getLast?.map (·.2.state)

/-- The counter an observation finds belongs to the session it names: that session has the last
event since the counter was reset, or the counter is at zero and so is the session. -/
def CounterBelongs (past : Log) (o : LevelObservation) : Prop :=
  owner past = some o.session ∨
    (startState (stateAfter past) o).carried = 0 ∧ terminals past o.session = 0

/-! ## The invariant -/

/-- The counter of a state counts the terminal events of the session that owns it. -/
structure Counting (log : Log) (state : LevelState) : Prop where
  carried : state.carried = (owner log).elim 0 (terminals log)
  current : ∀ e, state = .event e → owner log = some e.session

variable {state : LevelState} {o : LevelObservation} {t : LevelTransition}

theorem Counting.far {f : FarState} (h : Counting log state) (hstate : t.state = .far f)
    (hresets : t.resets = false) (hcarried : f.nextReentryGeneration = state.carried) :
    Counting (log ++ [(o, t)]) t.state := by
  have howner : owner (log ++ [(o, t)]) = owner log := by
    simp [ownerAfter, hstate, hresets]
  have hterminals : terminals (log ++ [(o, t)]) = terminals log := by
    funext session
    simp [LevelTransition.endsIn, hstate, LevelState.inSession]
  constructor
  · rw [howner, hterminals, hstate, ← h.carried]
    exact hcarried
  · simp [hstate]

theorem Counting.belongs {session : Session} (h : Counting log state)
    (hbelongs : owner log = some session ∨ state.carried = 0 ∧ terminals log session = 0) :
    state.carried = terminals log session := by
  rcases hbelongs with hown | ⟨hzero, hnone⟩
  · rw [h.carried, hown, Option.elim_some]
  · rw [hzero, hnone]

theorem Counting.armed {e : LevelEvent} (h : Counting log state) (hstate : t.state = .event e)
    (hcurrent : t.currentPhase = e.phase) (hactive : e.phase.terminal = false)
    (hsession : e.session = o.session) (hgeneration : e.reentryGeneration = state.carried)
    (hbelongs : owner log = some o.session ∨
      state.carried = 0 ∧ terminals log o.session = 0) : Counting (log ++ [(o, t)]) t.state := by
  have howner : owner (log ++ [(o, t)]) = some o.session := by
    simp [ownerAfter, hstate, hsession]
  have hterminals : terminals (log ++ [(o, t)]) o.session = terminals log o.session := by
    simp [LevelTransition.endsIn, LevelTransition.ends, hcurrent, hactive]
  have hcount := h.belongs hbelongs
  constructor
  · rw [howner, Option.elim_some, hterminals, ← hcount, hstate]
    simp [LevelState.carried, hactive, hgeneration]
  · rintro e' he'
    obtain rfl : e = e' := by simpa [hstate] using he'
    rw [howner, hsession]

theorem Counting.carriesOn {e : LevelEvent} (h : Counting log (.event e))
    (ht : ∃ e', t.state = .event e' ∧ t.previousPhase = e.phase ∧ t.currentPhase = e'.phase ∧
      e'.session = e.session ∧ e'.reentryGeneration = e.reentryGeneration)
    (hterminal : e.phase.terminal → t.currentPhase = e.phase) :
    Counting (log ++ [(o, t)]) t.state := by
  obtain ⟨e', hstate, hprev, hcur, hsession, hgeneration⟩ := ht
  have howner : owner log = some e.session := h.current e rfl
  have hcount : (LevelState.event e).carried = terminals log e.session := by
    rw [h.carried, howner, Option.elim_some]
  have howner' : owner (log ++ [(o, t)]) = some e.session := by
    simp [ownerAfter, hstate, hsession]
  constructor
  · rw [howner', Option.elim_some, terminals_append, ← hcount, hstate]
    simp only [LevelState.carried, LevelTransition.endsIn, LevelTransition.ends, hstate,
      LevelState.inSession, hsession, hprev, hcur, hgeneration]
    cases hold : e.phase.terminal with
    | true =>
      have hnew : e'.phase.terminal = true := by rw [← hcur, hterminal hold, hold]
      simp [hnew]
    | false => cases hnew : e'.phase.terminal <;> simp
  · rintro e'' he''
    obtain rfl : e' = e'' := by simpa [hstate] using he''
    rw [howner', hsession]

/-- The step lemma: any observation keeps the count, given that an event it arms belongs to the
counter. -/
theorem Counting.step (h : Counting log (startState s o))
    (hbelongs : (advanceLevelDecision s o settings).arms → owner log = some o.session ∨
      (startState s o).carried = 0 ∧ terminals log o.session = 0) :
    Counting (log ++ [(o, advanceLevelDecision s o settings)])
      (advanceLevelDecision s o settings).state := by
  cases hboundary : sessionBoundaryChanged (startState s o) o with
  | true =>
    rw [advanceLevelDecision_boundary s o settings hboundary]
    exact ⟨by simp [ownerAfter, LevelTransition.resets, LevelState.carried, farAfter], by simp⟩
  | false =>
    have hout := advanceLevelDecision_outcome s o settings hboundary
    generalize advanceLevelDecision s o settings = t at hout hbelongs ⊢
    generalize startState s o = state at hout h hbelongs
    cases hout with
    | idle hnext _ => exact h.far rfl rfl hnext
    | @armed f spot es kind level =>
      have harms := arms_armedTransition (.inl rfl) o spot es settings
        f.nextReentryGeneration kind level "nearest_level_armed"
      exact h.armed rfl rfl (armedEvent_not_terminal ..)
        (armedEvent_session ..)
        (armedEvent_reentryGeneration ..) (hbelongs harms)
    | @carried e _ hcarries hterminal =>
      refine h.carriesOn ?_ hterminal
      rcases hcarries with ⟨e', h1, h2, h3, hc, _⟩ | ⟨_, e', h1, h2, h3, hc, _⟩
      · exact ⟨e', h1, h2, h3, hc.session, hc.reentryGeneration⟩
      · exact ⟨e', h1, h2, h3, hc.session, hc.reentryGeneration⟩
    | withdrawn happroaching =>
      refine h.far rfl rfl ?_
      simp [LevelState.carried, happroaching, LevelPhase.terminal, farAfter]
    | exited hterminal _ hreason _ =>
      refine h.far rfl (by simp [LevelTransition.resets, hreason]) ?_
      simp [LevelState.carried, hterminal, farAfter]
    | @rearmed e spot es kind level hterminal =>
      have harms := arms_armedTransition (.inr hterminal) o spot es settings
        (e.reentryGeneration + 1) kind level "stable_structure_promoted_rearm"
      refine h.armed rfl rfl (armedEvent_not_terminal ..)
        (armedEvent_session ..) ?_ (hbelongs harms)
      rw [armedEvent_reentryGeneration, LevelState.carried, if_pos hterminal]

theorem Counting.empty (o : LevelObservation) : Counting [] (startState none o) :=
  ⟨rfl, by simp [startState]⟩

/-! ## Runs -/

theorem stateAfter_run (h : LevelRun settings log s) : stateAfter log = s := by
  cases h with
  | nil => rfl
  | snoc i h hok => simp [stateAfter, levelStep]

/-- What the law asks of an event that is armed. -/
def BelongsIfArmed (past : Log) (o : LevelObservation) (t : LevelTransition) : Prop :=
  t.arms → CounterBelongs past o

/-- The run lemma: the counter counts in every state a run of such observations reaches. -/
theorem counting_run (h : LevelRun settings log s)
    (hbelongs : ∀ past o t rest, log = past ++ (o, t) :: rest → BelongsIfArmed past o t) :
    ∀ o, Counting log (startState s o) := by
  -- The log so far is carried along to name the state the condition speaks of.
  have hrun : stateAfter log = s ∧ ∀ o, Counting log (startState s o) := by
    refine Run.invariant_met
      (I := fun log s => stateAfter log = s ∧ ∀ o, Counting log (startState s o))
      (P := BelongsIfArmed) ⟨rfl, Counting.empty⟩ ?_ h hbelongs
    rintro log s o ⟨hafter, hcount⟩ hmet
    refine ⟨by simp [stateAfter, levelStep], fun _ => ?_⟩
    refine (hcount o).step fun harms => ?_
    have := hmet harms
    rwa [CounterBelongs, hafter] at this
  exact hrun.2

/-- **The re-entry generation counts the terminal events of the session**, in every run in which
each event is armed in the session its counter belongs to. Inside a session the generation then
never falls, and rises across a terminal event. -/
theorem reentryGeneration_counts (h : LevelRun settings log s)
    (hbelongs : ∀ past o t rest, log = past ++ (o, t) :: rest → BelongsIfArmed past o t) :
    GenerationsCount log ∧
    ∀ past o₁ t₁ e₁ between o₂ t₂ e₂ rest,
      log = past ++ (o₁, t₁) :: (between ++ (o₂, t₂) :: rest) →
      t₁.arms → t₁.state = .event e₁ → t₂.arms → t₂.state = .event e₂ → o₁.session = o₂.session →
      e₁.reentryGeneration ≤ e₂.reentryGeneration ∧
      ((∃ x ∈ between, x.2.endsIn o₁.session) → e₁.reentryGeneration < e₂.reentryGeneration) := by
  have hcounts : GenerationsCount log := by
    intro past o t rest e hlog harms hstate
    subst hlog
    obtain ⟨s', hpast, _, ht⟩ := h.split
    change t = advanceLevelDecision s' o settings at ht
    subst ht
    obtain ⟨spot, es, kind, level, _, harmed⟩ := arms_cases (wellFormed_run hpast o) harms
    obtain rfl : armedEvent o spot es settings (startState s' o).carried kind level = e := by
      simpa [hstate] using harmed.symm
    have hcount := counting_run hpast
      (fun past' o' t' rest' heq => hbelongs past' o' t' _ (by
        rw [heq, List.append_assoc, List.cons_append])) o
    have hmet := hbelongs past o _ rest rfl harms
    rw [CounterBelongs, stateAfter_run hpast] at hmet
    rw [armedEvent_reentryGeneration]
    exact hcount.belongs hmet
  refine ⟨hcounts, ?_⟩
  intro past o₁ t₁ e₁ between o₂ t₂ e₂ rest hlog harms₁ hstate₁ harms₂ hstate₂ hsession
  have h₁ := hcounts past o₁ t₁ _ e₁ hlog harms₁ hstate₁
  have h₂ := hcounts (past ++ (o₁, t₁) :: between) o₂ t₂ rest e₂ (by simp [hlog]) harms₂ hstate₂
  have hsplit : terminals (past ++ (o₁, t₁) :: between) o₂.session =
      terminals past o₁.session + terminals ((o₁, t₁) :: between) o₁.session := by
    rw [terminals, List.countP_append, hsession]
    rfl
  refine ⟨by omega, fun ⟨x, hx, hends⟩ => ?_⟩
  have hpos : 0 < terminals ((o₁, t₁) :: between) o₁.session :=
    List.countP_pos_iff.mpr ⟨x, List.mem_cons_of_mem _ hx, hends⟩
  omega

/-! ## Where the count goes wrong -/

theorem not_generationsCount {past : Log} (h : LevelRun settings past s)
    (harms : (advanceLevelDecision s o settings).arms)
    (hne : (startState s o).carried ≠ terminals past o.session) :
    ¬GenerationsCount (past ++ [(o, advanceLevelDecision s o settings)]) := by
  intro hcounts
  obtain ⟨spot, es, kind, level, _, harmed⟩ := arms_cases (wellFormed_run h o) harms
  have := hcounts past o _ [] _ rfl harms harmed
  rw [armedEvent_reentryGeneration] at this
  exact hne this

/-- A call wall at 100 is approached, expires, and is left for good. -/
def expiredMorning : List LevelObservation :=
  [cashTick (seconds 0) 95 5000 (publish .callWall 100),
    cashTick (seconds 400) 80 5000 (publish .callWall 100),
    cashTick (seconds 440) 80 5000 (publish .callWall 100)]

/-- The same wall, approached again. -/
def secondApproach : LevelObservation := cashTick (seconds 445) 95 5000 (publish .callWall 100)

/-- The same wall, approached on the next day. -/
def nextMorning : LevelObservation :=
  { cashTick (seconds 86400) 95 5000 (publish .callWall 100) with sessionDate := "2026-07-14" }

/-- The wall expires in the chain coordinate, and cash SPX is back before it is left. -/
def expiredInChain : List LevelObservation :=
  [{ cashTick (seconds 0) 95 5000 (publish .callWall 100) with
      triggerCoordinateKind := "chain_implied_spx" },
    { cashTick (seconds 400) 80 5000 (publish .callWall 100) with
      triggerCoordinateKind := "chain_implied_spx" },
    cashTick (seconds 440) 80 5000 (publish .callWall 100)]

/-- The first event of a new session gets the generation of the old one when the machine was in FAR
at the change, and cash SPX coming back starts over inside a session. -/
theorem reentryGeneration_leaks :
    ¬GenerationsCount (play (levelStep {}) none (expiredMorning ++ [nextMorning])).1 ∧
      ¬GenerationsCount (play (levelStep {}) none (expiredInChain ++ [secondApproach])).1 := by
  constructor
  · rw [play_snoc]
    exact not_generationsCount (Run.play (allowed_anyStep _ _)) (by decide +kernel)
      (by decide +kernel)
  · rw [play_snoc]
    exact not_generationsCount (Run.play (allowed_anyStep _ _)) (by decide +kernel)
      (by decide +kernel)

instance (past : Log) (o : LevelObservation) : Decidable (CounterBelongs past o) :=
  inferInstanceAs (Decidable (_ ∨ _))

instance (past : Log) (o : LevelObservation) (t : LevelTransition) :
    Decidable (BelongsIfArmed past o t) :=
  inferInstanceAs (Decidable (_ → _))

/-- Approached again on the same day, the wall is armed with generation one. -/
theorem reentryGeneration_counts_secondApproach :
    GenerationsCount (play (levelStep {}) none (expiredMorning ++ [secondApproach])).1 := by
  refine (reentryGeneration_counts (Run.play (allowed_anyStep _ _)) fun past o t rest h => ?_).1
  exact forall_split_iff (P := fun past x => BelongsIfArmed past x.1 x.2)
    |>.mpr (by decide +kernel) past (o, t) rest h

end SpxSpark.OrderMap
