import SpxSpark.OrderMap.Reentry

/-!
# RearmGuard — a level that ended is not armed again until the price has left it

Inside one session and one coordinate, the level of a terminal event is to stay blocked until the
price has been outside its approach radius, or the published level has moved away or gone.
-/

namespace SpxSpark.OrderMap

open Lib List

variable {settings : LevelDecisionSettings} {log : Log} {s : Option LevelState}
  {o : LevelObservation} {kind : LevelKind} {level : ℚ}

/-! ## The law -/

/-- The observation frees a level: the price is outside its approach radius, or its kind is
published elsewhere or not at all. -/
def releases (settings : LevelDecisionSettings) (kind : LevelKind) (level : ℚ)
    (o : LevelObservation) : Bool :=
  (o.spot.any fun spot => settings.approachPoints < |spot - level|) ||
    (o.levels kind).all fun current => settings.structureDriftPoints < |current - level|

/-- The law: between the end of an event and the next one on its level, the level is freed. -/
def RearmBlocked (settings : LevelDecisionSettings) (log : Log) : Prop :=
  ∀ past o₁ t₁ e₁ between o₂ t₂ e₂ rest,
    log = past ++ (o₁, t₁) :: (between ++ (o₂, t₂) :: rest) →
    t₁.ends → t₁.state = .event e₁ → t₂.arms → t₂.state = .event e₂ →
    e₂.levelKind = e₁.levelKind → |e₂.level - e₁.level| ≤ settings.structureDriftPoints →
    ∃ x ∈ between ++ [(o₂, t₂)], releases settings e₁.levelKind e₁.level x.1

/-- Some level of another kind is within reach of the price. -/
def neighbourInReach (settings : LevelDecisionSettings) (kind : LevelKind) (o : LevelObservation)
    (spot : ℚ) : Bool :=
  LevelKind.all.any fun other =>
    other ≠ kind ∧ (o.levels other).any fun level => |spot - level| ≤ settings.approachPoints

/-- The observation arms a neighbour over a guard that still stands. -/
def dropsGuard (settings : LevelDecisionSettings) (state : LevelState) (o : LevelObservation) :
    Bool :=
  match state, o.qualityOk, o.spot, o.es with
  | .far f, true, some spot, some _ =>
    o.armAllowed && f.rearmGuard.any fun guard =>
      !releases settings guard.1 guard.2 o && neighbourInReach settings guard.1 o spot
  | _, _, _, _ => false

/-! ## The block -/

/-- What blocks a level: an event on it that has ended, or the guard of the FAR state. -/
def LevelState.Blocks (kind : LevelKind) (level : ℚ) : LevelState → Prop
  | .far f => f.rearmGuard = some (kind, level)
  | .event e => e.phase.terminal ∧ e.levelKind = kind ∧ e.level = level

theorem releases_of_exit {spot : ℚ} (hspot : o.spot = some spot)
    (h : settings.approachPoints < |spot - level|) : releases settings kind level o := by
  simp [releases, hspot, h]

theorem releases_of_migration {e : LevelEvent} (h : structureMigrated e o settings) :
    releases settings e.levelKind e.level o := by
  unfold structureMigrated at h
  unfold releases
  cases hlevel : o.levels e.levelKind with
  | none => simp
  | some current =>
    rw [hlevel] at h
    simpa using .inr (of_decide_eq_true h)

theorem nearestLevel_some {spot : ℚ} {guard : Option (LevelKind × ℚ)}
    (h : nearestLevel o spot settings guard = some (kind, level)) :
    o.levels kind = some level ∧ |spot - level| ≤ settings.approachPoints ∧
      rearmGuardBlocks guard kind level settings = false := by
  have hmem := argmin_mem h
  simp only [eligibleLevels, mem_filter, mem_filterMap, Option.map_eq_some_iff,
    Prod.mk.injEq, decide_eq_true_eq] at hmem
  obtain ⟨⟨other, _, current, hcurrent, rfl, rfl⟩, hreach, hfree⟩ := hmem
  exact ⟨hcurrent, hreach, hfree⟩

theorem armed_releases {f : FarState} {spot es : ℚ} {kind' : LevelKind} {level' : ℚ}
    (hguard : f.rearmGuard = some (kind, level)) (hgood : Good o spot es)
    (hallowed : o.armAllowed = true) (hkeep : dropsGuard settings (.far f) o = false)
    (hnear : nearestLevel o spot settings (liveGuard f spot settings) = some (kind', level')) :
    releases settings kind level o := by
  by_contra hheld
  obtain ⟨hpublished, hreach, hfree⟩ := nearestLevel_some hnear
  have hheld' : releases settings kind level o = false := by simpa using hheld
  simp only [releases, hgood.spot, Option.any_some, Bool.or_eq_false_iff, decide_eq_false_iff_not,
    not_lt] at hheld'
  -- The price has not left, so the guard is still live when the level is chosen.
  have hlive : liveGuard f spot settings = some (kind, level) := by
    simp [liveGuard, hguard, hheld'.1]
  have hkind : kind' = kind := by
    by_contra hother
    have hneighbour : neighbourInReach settings kind o spot = true :=
      any_eq_true.mpr ⟨kind', LevelKind.mem_all kind', by simp [hother, hpublished, hreach]⟩
    simp [dropsGuard, hgood.ok, hgood.spot, hgood.es, hallowed, hguard, hheld, hneighbour] at hkeep
  subst hkind
  have hdrift : |level' - level| ≤ settings.structureDriftPoints := by
    simpa [hpublished] using hheld'.2
  simp [rearmGuardBlocks, hlive, hdrift] at hfree

/-- The step lemma: a block stands until the level is freed, and nothing is armed meanwhile. -/
theorem blocks_step (hsame : sessionBoundaryChanged (startState s o) o = false)
    (hkeep : dropsGuard settings (startState s o) o = false)
    (h : (startState s o).Blocks kind level) : releases settings kind level o ∨
      (advanceLevelDecision s o settings).state.Blocks kind level ∧
        (advanceLevelDecision s o settings).arms = false := by
  have hout := advanceLevelDecision_outcome s o settings hsame
  generalize advanceLevelDecision s o settings = t at hout ⊢
  generalize startState s o = state at hout h hkeep
  cases hout with
  | idle _ hguard =>
    rcases hguard with hguard | ⟨spot, guard, hspot, hold, hexit⟩
    · exact .inr ⟨hguard.trans h, by simp [LevelTransition.arms]⟩
    · obtain rfl : guard = (kind, level) := Option.some.inj (hold.symm.trans h)
      exact .inl (releases_of_exit hspot hexit)
  | armed hgood hallowed hnear => exact .inl (armed_releases h hgood hallowed hkeep hnear)
  | @carried e _ hcarries hterminal =>
    obtain ⟨hend, hkind, hlevel⟩ := h
    have hcur : t.currentPhase = e.phase := hterminal hend
    rcases hcarries with ⟨e', hstate, _, hphase, hc, _⟩ | ⟨hup, _⟩
    · have hend' : e'.phase.terminal = true := by rw [← hphase, hcur, hend]
      refine .inr ⟨?_, ?_⟩
      · rw [hstate]
        exact ⟨hend', hc.levelKind.trans hkind, hc.level.trans hlevel⟩
      · exact not_arms_of_terminal (hphase ▸ hend')
    · simp [canUpgradeRthTriggerCoordinate, hend] at hup
  | withdrawn happroaching => simp [LevelState.Blocks, happroaching, LevelPhase.terminal] at h
  | exited _ hspot _ hguard =>
    obtain ⟨_, rfl, rfl⟩ := h
    rcases hguard with rfl | ⟨rfl, hexit | hmigrated⟩
    · exact .inr ⟨rfl, by simp [LevelTransition.arms]⟩
    · exact .inl (releases_of_exit hspot hexit)
    · exact .inl (releases_of_migration hmigrated)
  | rearmed _ _ _ hmigrated _ =>
    obtain ⟨_, rfl, rfl⟩ := h
    exact .inl (releases_of_migration hmigrated)

/-! ## One session, one coordinate -/

/-- The observation is of the session and the coordinate. -/
def Within (session : Session) (coordinate : String) (o : LevelObservation) : Prop :=
  o.session = session ∧ o.triggerCoordinateKind = coordinate

/-- An event in the state is of the session and the coordinate. -/
def LevelState.Within (session : Session) (coordinate : String) (state : LevelState) : Prop :=
  ∀ e, state = .event e → e.session = session ∧ e.triggerCoordinateKind = coordinate

variable {session : Session} {coordinate : String}

theorem no_boundary {state : LevelState} (hstate : state.Within session coordinate)
    (ho : Within session coordinate o) : sessionBoundaryChanged state o = false := by
  cases state with
  | far f => rfl
  | event e =>
    obtain ⟨hsession, hcoordinate⟩ := hstate e rfl
    obtain ⟨hdate, hmode⟩ := Prod.mk.inj (hsession.trans ho.1.symm)
    have hproxy : o.triggerCoordinateKind = "official_spx" →
        proxyCoordinate e.triggerCoordinateKind = false := by
      intro hofficial
      rw [hcoordinate, ← ho.2, hofficial]
      decide
    simp only [sessionBoundaryChanged, hdate, hmode, ne_eq, not_true_eq_false, and_false, false_or,
      decide_eq_false_iff_not, not_and]
    exact fun _ _ hofficial => by simp [hproxy hofficial]

theorem within_step (hstate : (startState s o).Within session coordinate)
    (ho : Within session coordinate o) :
    (advanceLevelDecision s o settings).state.Within session coordinate := by
  have hout := advanceLevelDecision_outcome s o settings (no_boundary hstate ho)
  generalize advanceLevelDecision s o settings = t at hout ⊢
  generalize startState s o = state at hout hstate
  cases hout with
  | idle => exact fun e h => by cases h
  | withdrawn => exact fun e h => by cases h
  | exited => exact fun e h => by cases h
  | armed =>
    rintro _ ⟨⟩
    exact ⟨(armedEvent_session ..).trans ho.1, (armedEvent_triggerCoordinateKind ..).trans ho.2⟩
  | rearmed =>
    rintro _ ⟨⟩
    exact ⟨(armedEvent_session ..).trans ho.1, (armedEvent_triggerCoordinateKind ..).trans ho.2⟩
  | @carried e _ hcarries =>
    obtain ⟨hsession, hcoordinate⟩ := hstate e rfl
    rcases hcarries with ⟨e', he', _, _, hc, _⟩ | ⟨hup, _⟩
    · intro e'' he''
      obtain rfl : e' = e'' := by simpa [he'] using he''
      exact ⟨hc.session.trans hsession, hc.triggerCoordinateKind.trans hcoordinate⟩
    · -- An upgrade needs a proxy coordinate and a cash observation.
      simp only [canUpgradeRthTriggerCoordinate, hcoordinate, ← ho.2, proxyCoordinate,
        decide_eq_true_eq] at hup
      obtain ⟨_, _, _, hproxy, hofficial⟩ := hup
      simp [hofficial] at hproxy

/-! ## Runs -/

/-- What the law asks of an observation. -/
def Guarding (settings : LevelDecisionSettings) (session : Session) (coordinate : String)
    (past : Log) (o : LevelObservation) : Prop :=
  Within session coordinate o ∧ dropsGuard settings (startState (stateAfter past) o) o = false

/-- Every event that ended is either freed since, or its level is blocked now. -/
def EndsBlocked (settings : LevelDecisionSettings) (log : Log) (state : LevelState) : Prop :=
  ∀ past o t e after, log = past ++ (o, t) :: after → t.ends → t.state = .event e →
    (∃ x ∈ after, releases settings e.levelKind e.level x.1) ∨ state.Blocks e.levelKind e.level

theorem endsBlocked_step
    (hsame : sessionBoundaryChanged (startState s o) o = false)
    (hkeep : dropsGuard settings (startState s o) o = false)
    (h : EndsBlocked settings log (startState s o)) :
    EndsBlocked settings (log ++ [(o, advanceLevelDecision s o settings)])
      (advanceLevelDecision s o settings).state := by
  intro past o₁ t₁ e₁ after hlog hends hstate
  rcases Run.snoc_split hlog with ⟨rfl, hlast, rfl⟩ | ⟨after', rfl, hlog'⟩
  · -- The event ended just now, and its state is the block.
    obtain ⟨rfl, rfl⟩ := Prod.mk.inj hlast.symm
    have hphase := advanceLevelDecision_currentPhase s o settings
    rw [hstate] at hphase ⊢
    have hend : e₁.phase.terminal = true := by
      simp only [LevelTransition.ends, hphase, LevelState.phase, decide_eq_true_eq] at hends
      exact hends.2
    exact .inr ⟨hend, rfl, rfl⟩
  · rcases h past o₁ t₁ e₁ after' hlog' hends hstate with ⟨x, hx, hfree⟩ | hblocks
    · exact .inl ⟨x, mem_append_left _ hx, hfree⟩
    · rcases blocks_step hsame hkeep hblocks with hfree | ⟨hblocks', _⟩
      · exact .inl ⟨_, mem_append_right _ (mem_singleton_self _), hfree⟩
      · exact .inr hblocks'

/-- The run lemma. -/
theorem endsBlocked_run (h : LevelRun settings log s)
    (hguarding : ∀ past o t rest, log = past ++ (o, t) :: rest →
      Guarding settings session coordinate past o) :
    ∀ o, (startState s o).Within session coordinate ∧
      EndsBlocked settings log (startState s o) := by
  have hrun : stateAfter log = s ∧ ∀ o, (startState s o).Within session coordinate ∧
      EndsBlocked settings log (startState s o) := by
    refine Run.invariant_met
      (I := fun log s => stateAfter log = s ∧ ∀ o, (startState s o).Within session coordinate ∧
        EndsBlocked settings log (startState s o))
      (P := fun past o _ => Guarding settings session coordinate past o) ⟨rfl, fun o => ?_⟩ ?_ h
      hguarding
    · constructor
      · intro e he
        cases he
      · intro past o t e after hlog
        simp at hlog
    · rintro log s o ⟨hafter, hs⟩ ⟨ho, hkeep⟩
      rw [hafter] at hkeep
      refine ⟨by simp [stateAfter, levelStep], fun _ => ⟨within_step (hs o).1 ho, ?_⟩⟩
      exact endsBlocked_step (no_boundary (hs o).1 ho) hkeep (hs o).2
  exact hrun.2

/-- **A level that ended stays blocked until it is freed**, in every run inside one session and one
coordinate in which no neighbour is armed over a standing guard. -/
theorem rearm_blocked (h : LevelRun settings log s)
    (hguarding : ∀ past o t rest, log = past ++ (o, t) :: rest →
      Guarding settings session coordinate past o) : RearmBlocked settings log := by
  intro past o₁ t₁ e₁ between o₂ t₂ e₂ rest hlog hends hstate₁ harms _ _ _
  have hlog' : log = (past ++ (o₁, t₁) :: between) ++ (o₂, t₂) :: rest := by simp [hlog]
  subst hlog'
  obtain ⟨s', hpast, _, ht⟩ := h.split
  change t₂ = advanceLevelDecision s' o₂ settings at ht
  subst ht
  have hmet := hguarding _ o₂ _ rest rfl
  rw [Guarding, stateAfter_run hpast] at hmet
  obtain ⟨hwithin, hblocked⟩ := endsBlocked_run hpast
    (fun past' o' t' rest' heq => hguarding past' o' t' _ (by
      rw [heq, append_assoc, cons_append])) o₂
  rcases hblocked past o₁ t₁ e₁ between rfl hends hstate₁ with ⟨x, hx, hfree⟩ | hblocks
  · exact ⟨x, mem_append_left _ hx, hfree⟩
  · rcases blocks_step (no_boundary hwithin hmet.1) hmet.2 hblocks with
      hfree | ⟨_, hidle⟩
    · exact ⟨_, mem_append_right _ (mem_singleton_self _), hfree⟩
    · rw [hidle] at harms
      cases harms

/-! ## Around the block -/

/-- A call wall with a flip above it, both in reach of the price now and then. -/
def wallAndFlip : Levels := fun kind =>
  match kind with
  | .callWall => some 100
  | .flipHigh => some 110
  | _ => none

/-- The quotes are gone. -/
def blindTick (at' : Instant) (levels : Levels) : LevelObservation :=
  { cashTick at' 0 0 levels with spot := none, es := none, qualityOk := false }

/-- The wall expires and leaves its guard, the flip is armed over it and withdrawn, and the wall is
armed again, with the price never more than seven points away. -/
def aroundTheGuard : List LevelObservation :=
  [cashTick (seconds 0) 93 5000 wallAndFlip, blindTick (seconds 301) wallAndFlip,
    cashTick (seconds 340) 93 5000 wallAndFlip, cashTick (seconds 341) 99 5000 wallAndFlip,
    cashTick (seconds 342) (979 / 10) 5000 wallAndFlip]

/-- The observation that arms the wall again. -/
def sameWall : LevelObservation := cashTick (seconds 343) (979 / 10) 5000 wallAndFlip

/-- The kind and the level of a state's event. -/
def LevelState.watched : LevelState → Option (LevelKind × ℚ)
  | .far _ => none
  | .event e => some (e.levelKind, e.level)

/-- Two events on one level, the first ended at place `i`, the second armed `d + 1` places later,
with nothing from there on that frees the level. -/
theorem not_rearmBlocked (i d : ℕ) (kind : LevelKind) (level : ℚ) (hi : i < log.length)
    (hd : d < (log.drop (i + 1)).length)
    (hends : log[i].2.ends) (harms : (log.drop (i + 1))[d].2.arms)
    (hfirst : log[i].2.state.watched = some (kind, level))
    (hsecond : (log.drop (i + 1))[d].2.state.watched = some (kind, level))
    (hdrift : 0 ≤ settings.structureDriftPoints)
    (hheld : ∀ x ∈ (log.drop (i + 1)).take (d + 1), releases settings kind level x.1 = false) :
    ¬RearmBlocked settings log := by
  intro hlaw
  have hlog : log = log.take i ++ log[i] :: log.drop (i + 1) := by
    rw [← drop_eq_getElem_cons hi, take_append_drop]
  generalize log.drop (i + 1) = after at hd harms hsecond hheld hlog
  have hafter : after = after.take d ++ after[d] :: after.drop (d + 1) := by
    rw [← drop_eq_getElem_cons hd, take_append_drop]
  have hbetween : after.take d ++ [after[d]] = after.take (d + 1) := by simp
  cases hstate₁ : log[i].2.state with
  | far f => simp [hstate₁, LevelState.watched] at hfirst
  | event e₁ =>
    cases hstate₂ : after[d].2.state with
    | far f => simp [hstate₂, LevelState.watched] at hsecond
    | event e₂ =>
      obtain ⟨rfl, rfl⟩ : e₁.levelKind = kind ∧ e₁.level = level := by
        simpa [hstate₁, LevelState.watched] using hfirst
      obtain ⟨hkind, hlevel⟩ : e₂.levelKind = e₁.levelKind ∧ e₂.level = e₁.level := by
        simpa [hstate₂, LevelState.watched] using hsecond
      obtain ⟨x, hx, hfree⟩ := hlaw (log.take i) log[i].1 log[i].2 e₁ (after.take d)
        after[d].1 after[d].2 e₂ (after.drop (d + 1)) (hlog.trans (by rw [← hafter])) hends
        hstate₁ harms hstate₂ hkind (by simpa [hlevel] using hdrift)
      rw [hbetween] at hx
      rw [hheld x hx] at hfree
      cases hfree

theorem rearm_around_guard :
    ¬RearmBlocked {} (play (levelStep {}) none (aroundTheGuard ++ [sameWall])).1 :=
  not_rearmBlocked 1 3 .callWall 100 (by decide +kernel) (by decide +kernel) (by decide +kernel)
    (by decide +kernel) (by decide +kernel) (by decide +kernel) (by decide +kernel)
    (by decide +kernel)

/-- With no flip to arm, the guard holds until the price has left, and the wall is armed then. -/
def wallLeft : List LevelObservation :=
  [cashTick (seconds 0) 93 5000 (publish .callWall 100),
    blindTick (seconds 301) (publish .callWall 100),
    cashTick (seconds 340) 93 5000 (publish .callWall 100),
    cashTick (seconds 341) 93 5000 (publish .callWall 100),
    cashTick (seconds 342) 87 5000 (publish .callWall 100),
    cashTick (seconds 343) 93 5000 (publish .callWall 100)]

instance (o : LevelObservation) : Decidable (Within session coordinate o) :=
  inferInstanceAs (Decidable (_ ∧ _))

instance (past : Log) (o : LevelObservation) :
    Decidable (Guarding settings session coordinate past o) :=
  inferInstanceAs (Decidable (_ ∧ _))

theorem rearm_blocked_wallLeft : RearmBlocked {} (play (levelStep {}) none wallLeft).1 := by
  have hguarding := forall_split_iff (l := (play (levelStep {}) none wallLeft).1)
    (P := fun past x => Guarding {} ("2026-07-13", "rth") "official_spx" past x.1)
    |>.mpr (by decide +kernel)
  exact rearm_blocked (Run.play (allowed_anyStep _ _)) fun past o t => hguarding past (o, t)

end SpxSpark.OrderMap
