import SpxSpark.OrderMap.LevelSteps

/-!
# LevelEvidence — what a confirmed event has been shown

The machine keeps its evidence in a dozen fields of the event. Here it is read off the observations
instead: every observation of an event is a tick, with the distance the price stood outside the
level, and a confirmed thesis must find its start, its acceptance, its extension or retest and its
final stretch among the ticks, in that order.
-/

namespace SpxSpark.OrderMap

open Lib List

/-! ## Ticks -/

/-- One observation of an event, in the coordinate the event has by then. -/
structure Tick where
  at' : Instant
  /-- How far outside the level the price is; nothing without good data. -/
  move : Option ℚ
  /-- ES confirms the direction of the thesis. -/
  confirms : Bool

namespace Tick

/-- The tick is good and its distance has the property. -/
def Shows (p : ℚ → Prop) (x : Tick) : Prop := ∃ m, x.move = some m ∧ p m

/-- Where the tick is good, its distance has the property. -/
def Keeps (p : ℚ → Prop) (x : Tick) : Prop := ∀ m, x.move = some m → p m

end Tick

/-- The observation `o`, to the event it led to. -/
def tickOf (settings : LevelDecisionSettings) (o : LevelObservation) (e : LevelEvent) : Tick where
  at' := o.at'
  move :=
    match o.qualityOk, o.spot, o.es with
    | true, some spot, some _ => some (outsideMove e spot)
    | _, _, _ => none
  confirms :=
    match o.spot, o.es with
    | some spot, some es => esConfirms e spot es (desiredDirection e) settings
    | _, _ => false

/-- The ticks of the event at hand, after one more transition. -/
def lifeAfter (settings : LevelDecisionSettings) (ts : List Tick)
    (x : LevelObservation × LevelTransition) : List Tick :=
  match x.2.state with
  | .far _ => []
  | .event e => if x.2.arms then [tickOf settings x.1 e] else ts ++ [tickOf settings x.1 e]

/-- The ticks of the event at hand, since it was armed. -/
def life (settings : LevelDecisionSettings) (log : Log) : List Tick :=
  log.foldl (lifeAfter settings) []

/-! ## Evidence -/

/-- The distance in the direction of a thesis. -/
def push (thesis : LevelThesis) (move : ℚ) : ℚ := if thesis = .breakout then move else -move

/-- The move that starts a thesis and the move that has it accepted. -/
def startPoints (settings : LevelDecisionSettings) (thesis : LevelThesis) : ℚ :=
  if thesis = .breakout then settings.breakBufferPoints else settings.rejectPoints

section Evidence

variable (settings : LevelDecisionSettings) (thesis : LevelThesis)

/-- The thesis starts at `start`, after a test of the level and, for a breakout, after the inside of
the level was seen, and nothing since has refuted it. -/
structure Begun (ts : List Tick) (start : Tick) (after : List Tick) : Prop where
  before : ∃ a, ts = a ++ start :: after ∧
    (∃ x ∈ a, x.Shows fun m => |m| ≤ settings.testPoints) ∧
    (thesis = .breakout → ∃ x ∈ a, x.Shows fun m => m ≤ 0)
  pushes : start.Shows fun m => startPoints settings thesis ≤ push thesis m
  unopposed : ∀ x ∈ after, x.Keeps fun m => -settings.breakBufferPoints < push thesis m

/-- The thesis is accepted at `acc`, long enough after its start, with ES confirming. -/
structure AcceptedAt (start : Tick) (after : List Tick) (acc : Tick) (since : List Tick) :
    Prop where
  split : ∃ b, after = b ++ acc :: since
  pushes : acc.Shows fun m => startPoints settings thesis ≤ push thesis m
  hold : settings.acceptHoldSeconds ≤ secondsBetween acc.at' start.at'
  confirms : acc.confirms

/-- A tick beyond both the retest and the confirmation distance, with `q` after it. -/
def Extended (ts q : List Tick) : Prop :=
  ∃ p x, ts = p ++ x :: q ∧ x.Shows fun m => settings.extensionPoints < m

/-- A tick back at the level, with `w` after it. -/
def Retested (ts w : List Tick) : Prop :=
  ∃ r x, ts = r ++ x :: w ∧ x.Shows fun m => |m| ≤ settings.retestPoints

/-- No tick back at the level. -/
def NoRetest (ts : List Tick) : Prop := ∀ x ∈ ts, x.Keeps fun m => settings.retestPoints < |m|

/-- The ticks end in a stretch from time `started` on, far enough in the direction of the thesis. -/
def Holding (ts : List Tick) (started : Instant) : Prop :=
  ∃ u first mid, ts = u ++ first :: mid ∧ first.at' = started ∧
    (first.Shows fun m => settings.confirmMovePoints ≤ push thesis m) ∧
    ∀ x ∈ mid, x.Keeps fun m => settings.confirmMovePoints ≤ push thesis m

/-- The ticks end in such a stretch, long enough, with ES confirming at its last tick. -/
def Held (ts : List Tick) : Prop :=
  ∃ u first mid last, ts = u ++ first :: (mid ++ [last]) ∧
    (first.Shows fun m => settings.confirmMovePoints ≤ push thesis m) ∧
    (∀ x ∈ mid, x.Keeps fun m => settings.confirmMovePoints ≤ push thesis m) ∧
    (last.Shows fun m => settings.confirmMovePoints ≤ push thesis m) ∧
    settings.confirmHoldSeconds ≤ secondsBetween last.at' first.at' ∧ last.confirms

end Evidence

/-- What the ticks of a confirmed breakout contain. -/
def BreakoutEvidence (settings : LevelDecisionSettings) (ts : List Tick) : Prop :=
  ∃ start after acc since q, Begun settings .breakout ts start after ∧
    AcceptedAt settings .breakout start after acc since ∧ Extended settings (acc :: since) q ∧
    ((∃ w, Retested settings q w ∧ Held settings .breakout w) ∨
      NoRetest settings q ∧ Held settings .breakout q)

/-- What the ticks of a confirmed fade contain. -/
def FadeEvidence (settings : LevelDecisionSettings) (ts : List Tick) : Prop :=
  ∃ start after acc since, Begun settings .fade ts start after ∧
    AcceptedAt settings .fade start after acc since ∧
    ((∃ w, Retested settings since w ∧ Held settings .fade w) ∨
      NoRetest settings since ∧ ∃ mid last, since = mid ++ [last] ∧
        (last.Shows fun m => settings.confirmMovePoints ≤ push .fade m) ∧
        settings.confirmHoldSeconds ≤ secondsBetween last.at' acc.at' ∧ last.confirms)

/-! ## One more tick -/

section Append

variable {settings : LevelDecisionSettings} {thesis : LevelThesis} {ts after since q w : List Tick}
  {start acc : Tick} {started : Instant} (x : Tick)

theorem Begun.append (h : Begun settings thesis ts start after)
    (hx : x.Keeps fun m => -settings.breakBufferPoints < push thesis m) :
    Begun settings thesis (ts ++ [x]) start (after ++ [x]) where
  before := by
    obtain ⟨a, hts, ha⟩ := h.before
    exact ⟨a, by rw [hts, append_assoc, cons_append], ha⟩
  pushes := h.pushes
  unopposed := by
    intro y hy
    rcases mem_append.mp hy with hy | hy
    · exact h.unopposed y hy
    · rw [mem_singleton.mp hy]
      exact hx

theorem AcceptedAt.append (h : AcceptedAt settings thesis start after acc since) :
    AcceptedAt settings thesis start (after ++ [x]) acc (since ++ [x]) where
  split := by
    obtain ⟨b, hb⟩ := h.split
    exact ⟨b, by rw [hb, append_assoc, cons_append]⟩
  pushes := h.pushes
  hold := h.hold
  confirms := h.confirms

theorem Extended.append (h : Extended settings ts q) :
    Extended settings (ts ++ [x]) (q ++ [x]) := by
  obtain ⟨p, y, hts, hy⟩ := h
  exact ⟨p, y, by rw [hts, append_assoc, cons_append], hy⟩

theorem Retested.append (h : Retested settings ts w) :
    Retested settings (ts ++ [x]) (w ++ [x]) := by
  obtain ⟨r, y, hts, hy⟩ := h
  exact ⟨r, y, by rw [hts, append_assoc, cons_append], hy⟩

theorem NoRetest.append (h : NoRetest settings ts)
    (hx : x.Keeps fun m => settings.retestPoints < |m|) : NoRetest settings (ts ++ [x]) := by
  intro y hy
  rcases mem_append.mp hy with hy | hy
  · exact h y hy
  · rw [mem_singleton.mp hy]
    exact hx

theorem Holding.append (h : Holding settings thesis ts started)
    (hx : x.Keeps fun m => settings.confirmMovePoints ≤ push thesis m) :
    Holding settings thesis (ts ++ [x]) started := by
  obtain ⟨u, first, mid, hts, hat, hfirst, hmid⟩ := h
  refine ⟨u, first, mid ++ [x], by rw [hts, append_assoc, cons_append], hat, hfirst, ?_⟩
  intro y hy
  rcases mem_append.mp hy with hy | hy
  · exact hmid y hy
  · rw [mem_singleton.mp hy]
    exact hx

theorem Holding.of_shows (hx : x.Shows fun m => settings.confirmMovePoints ≤ push thesis m) :
    Holding settings thesis (ts ++ [x]) x.at' :=
  ⟨ts, x, [], rfl, rfl, hx, by simp⟩

theorem Holding.held (h : Holding settings thesis ts started)
    (hx : x.Shows fun m => settings.confirmMovePoints ≤ push thesis m)
    (hhold : settings.confirmHoldSeconds ≤ secondsBetween x.at' started) (hes : x.confirms) :
    Held settings thesis (ts ++ [x]) := by
  obtain ⟨u, first, mid, rfl, rfl, hfirst, hmid⟩ := h
  exact ⟨u, first, mid, x, by simp, hfirst, hmid, hx, hhold, hes⟩

end Append

/-! ## What each phase has seen -/

/-- What the phase of an event has seen among its ticks. -/
def PhaseEvidence (settings : LevelDecisionSettings) (ts : List Tick) (e : LevelEvent) : Prop :=
  match e.phase with
  | .testing => ∃ x ∈ ts, x.Shows fun m => |m| ≤ settings.testPoints
  | .breakPending =>
    e.thesis = .breakout ∧ e.breakoutExtensionSeen.isSome = false ∧ e.confirmStartedAt = none ∧
    ∃ start after, Begun settings .breakout ts start after ∧ e.phaseAt = start.at'
  | .rejectPending =>
    e.thesis = .fade ∧
    ∃ start after, Begun settings .fade ts start after ∧ e.phaseAt = start.at'
  | .accepted =>
    e.thesis = .breakout ∧
    ∃ start after acc since, Begun settings .breakout ts start after ∧
      AcceptedAt settings .breakout start after acc since ∧
      (e.breakoutExtensionSeen.isSome → ∃ q, Extended settings (acc :: since) q ∧
        NoRetest settings q ∧
        ∀ started, e.confirmStartedAt = some started → Holding settings .breakout q started) ∧
      (e.breakoutExtensionSeen.isSome = false → e.confirmStartedAt = none)
  | .rejected =>
    e.thesis = .fade ∧
    ∃ start after acc since, Begun settings .fade ts start after ∧
      AcceptedAt settings .fade start after acc since ∧ e.phaseAt = acc.at' ∧
      NoRetest settings since
  | .retest =>
    (e.thesis = .breakout ∨ e.thesis = .fade) ∧
    ∃ start after acc since q w, Begun settings e.thesis ts start after ∧
      AcceptedAt settings e.thesis start after acc since ∧
      (e.thesis = .breakout → Extended settings (acc :: since) q) ∧
      (e.thesis = .fade → q = since) ∧ Retested settings q w ∧
      ∀ started, e.confirmStartedAt = some started → Holding settings e.thesis w started
  | _ => True

/-- The ticks of the event bear out its phase and its latches. -/
structure Supported (settings : LevelDecisionSettings) (ts : List Tick) (e : LevelEvent) :
    Prop where
  sign : e.outsideDirection = 1 ∨ e.outsideDirection = -1
  inside : e.breakoutInsideSeen.isSome → ∃ x ∈ ts, x.Shows fun m => m ≤ 0
  /-- The breakout latches are only written with a thesis. -/
  unlatched : e.phase = .approaching ∨ e.phase = .testing →
    e.breakoutExtensionSeen.isSome = false ∧ e.confirmStartedAt = none
  phase : PhaseEvidence settings ts e

/-- What the ticks of an event contain when it is confirmed. -/
def ConfirmedEvidence (settings : LevelDecisionSettings) (ts : List Tick) (e : LevelEvent) : Prop :=
  e.thesis = .breakout ∧ BreakoutEvidence settings ts ∨ e.thesis = .fade ∧ FadeEvidence settings ts

/-- The transition keeps the event supported, and confirms it only on complete evidence. -/
def Justified (settings : LevelDecisionSettings) (ts : List Tick) (o : LevelObservation)
    (e : LevelEvent) (t : LevelTransition) : Prop :=
  ∀ e', t.state = .event e' → Supported settings (ts ++ [tickOf settings o e']) e' ∧
    (e'.phase = .confirmed → e.phase ≠ .confirmed →
      ConfirmedEvidence settings (ts ++ [tickOf settings o e']) e')

section Steps

variable {settings : LevelDecisionSettings} {ts : List Tick} {o : LevelObservation} {spot es : ℚ}
  {e : LevelEvent}

theorem tickOf_move (hgood : Good o spot es) (e : LevelEvent) :
    (tickOf settings o e).move = some (outsideMove e spot) := by
  simp [tickOf, hgood.ok, hgood.spot, hgood.es]

theorem tickOf_confirms (hgood : Good o spot es) (e : LevelEvent) :
    (tickOf settings o e).confirms = esConfirms e spot es (desiredDirection e) settings := by
  simp [tickOf, hgood.spot, hgood.es]

theorem tickOf_shows (hgood : Good o spot es) (e : LevelEvent) (p : ℚ → Prop) :
    (tickOf settings o e).Shows p ↔ p (outsideMove e spot) := by
  simp [Tick.Shows, tickOf_move hgood]

theorem tickOf_keeps (hgood : Good o spot es) (e : LevelEvent) (p : ℚ → Prop) :
    (tickOf settings o e).Keeps p ↔ p (outsideMove e spot) := by
  simp [Tick.Keeps, tickOf_move hgood]

section

variable (h : Supported settings ts e)

include h

theorem Supported.abs_move (spot : ℚ) :
    |outsideMove e spot| = |spot - e.level| := by
  rcases h.sign with hsign | hsign <;> simp [outsideMove, hsign, abs_sub_comm]

omit h in
theorem desiredMove_eq (e : LevelEvent) (spot : ℚ) :
    desiredMove e spot = push e.thesis (outsideMove e spot) := by
  unfold desiredMove desiredDirection push outsideMove
  split
  · rfl
  · rw [Int.cast_neg, neg_mul]

omit h in
/-- The fields the evidence of an event is read from. -/
def latches (e : LevelEvent) :=
  (e.phase, e.thesis, e.phaseAt, e.outsideDirection, e.breakoutInsideSeen.isSome,
    e.breakoutExtensionSeen.isSome, e.confirmStartedAt)

theorem Supported.congr {e' : LevelEvent}
    (hlatches : latches e' = latches e) : Supported settings ts e' := by
  obtain ⟨hphase, hthesis, hphaseAt, hsign, hinside, hextension, hstarted⟩ :
      e'.phase = e.phase ∧ e'.thesis = e.thesis ∧ e'.phaseAt = e.phaseAt ∧
        e'.outsideDirection = e.outsideDirection ∧
        e'.breakoutInsideSeen.isSome = e.breakoutInsideSeen.isSome ∧
        e'.breakoutExtensionSeen.isSome = e.breakoutExtensionSeen.isSome ∧
        e'.confirmStartedAt = e.confirmStartedAt := by
    simpa [latches] using hlatches
  constructor
  · rw [hsign]
    exact h.sign
  · rw [hinside]
    exact h.inside
  · rw [hphase, hextension, hstarted]
    exact h.unlatched
  · have hevidence := h.phase
    unfold PhaseEvidence at hevidence ⊢
    rw [hphase, hthesis, hphaseAt, hextension, hstarted]
    exact hevidence

theorem Supported.inside_append (x : Tick)
    (hinside : e.breakoutInsideSeen.isSome) : ∃ y ∈ ts ++ [x], y.Shows fun m => m ≤ 0 := by
  obtain ⟨y, hy, hm⟩ := h.inside hinside
  exact ⟨y, mem_append_left _ hy, hm⟩

theorem Supported.next {e' : LevelEvent} (x : Tick)
    (hsign : e'.outsideDirection = e.outsideDirection)
    (hinside : e'.breakoutInsideSeen = e.breakoutInsideSeen)
    (happroaching : e'.phase ≠ .approaching) (htesting : e'.phase ≠ .testing)
    (hevidence : PhaseEvidence settings (ts ++ [x]) e') : Supported settings (ts ++ [x]) e' where
  sign := hsign ▸ h.sign
  inside := fun hin => h.inside_append x (hinside ▸ hin)
  unlatched := fun hphase => by
    rcases hphase with hphase | hphase
    · exact absurd hphase happroaching
    · exact absurd hphase htesting
  phase := hevidence

theorem justified_ended {t : LevelTransition} {e₁ : LevelEvent}
    (hstate : t.state = .event e₁) (hsign : e₁.outsideDirection = e.outsideDirection)
    (hinside : e₁.breakoutInsideSeen = e.breakoutInsideSeen) (hend : e₁.phase.terminal) :
    Justified settings ts o e t := by
  have hphase : e₁.phase = .invalidated ∨ e₁.phase = .expired := by
    revert hend
    cases e₁.phase <;> simp [LevelPhase.terminal]
  intro e' he'
  obtain rfl : e₁ = e' := by simpa [hstate] using he'
  refine ⟨h.next _ hsign hinside ?_ ?_ ?_, ?_⟩
  · rcases hphase with h | h <;> simp [h]
  · rcases hphase with h | h <;> simp [h]
  · rcases hphase with h | h <;> simp [PhaseEvidence, h]
  · rcases hphase with h | h <;> simp [h]

theorem justified_same {t : LevelTransition} {e₁ : LevelEvent}
    (hstate : t.state = .event e₁) (hlatches : latches e₁ = latches e)
    (hevidence : PhaseEvidence settings (ts ++ [tickOf settings o e₁]) e) :
    Justified settings ts o e t := by
  intro e' he'
  obtain rfl : e₁ = e' := by simpa [hstate] using he'
  have hphase : e₁.phase = e.phase := congrArg Prod.fst hlatches
  have hkept : Supported settings (ts ++ [tickOf settings o e₁]) e :=
    ⟨h.sign, h.inside_append _, h.unlatched, hevidence⟩
  exact ⟨hkept.congr hlatches, fun hnew hold => absurd (hphase ▸ hnew) hold⟩

omit h in
theorem PhaseEvidence.blind (h : PhaseEvidence settings ts e) {x : Tick} (hx : x.move = none) :
    PhaseEvidence settings (ts ++ [x]) e := by
  have hkeeps : ∀ p, x.Keeps p := fun p m hm => by simp [hx] at hm
  unfold PhaseEvidence at h ⊢
  split <;> rename_i hphase
  all_goals try simp only [hphase] at h
  · obtain ⟨y, hy, hm⟩ := h
    exact ⟨y, mem_append_left _ hy, hm⟩
  · obtain ⟨hthesis, hext, hstarted, start, after, hbegun, hat⟩ := h
    exact ⟨hthesis, hext, hstarted, start, _, hbegun.append x (hkeeps _), hat⟩
  · obtain ⟨hthesis, start, after, hbegun, hat⟩ := h
    exact ⟨hthesis, start, _, hbegun.append x (hkeeps _), hat⟩
  · obtain ⟨hthesis, start, after, acc, since, hbegun, hacc, hext, hnone⟩ := h
    refine ⟨hthesis, start, _, acc, _, hbegun.append x (hkeeps _), hacc.append x, ?_, hnone⟩
    intro hsome
    obtain ⟨q, hq, hno, hholding⟩ := hext hsome
    exact ⟨_, hq.append x, hno.append x (hkeeps _),
      fun started hs => (hholding started hs).append x (hkeeps _)⟩
  · obtain ⟨hthesis, start, after, acc, since, hbegun, hacc, hat, hno⟩ := h
    exact ⟨hthesis, start, _, acc, _, hbegun.append x (hkeeps _), hacc.append x, hat,
      hno.append x (hkeeps _)⟩
  · obtain ⟨hthesis, start, after, acc, since, q, w, hbegun, hacc, hext, hfade, hretest, hhold⟩ := h
    exact ⟨hthesis, start, _, acc, _, q ++ [x], _, hbegun.append x (hkeeps _), hacc.append x,
      fun hb => (hext hb).append x, fun hf => by rw [hfade hf], hretest.append x,
      fun started hs => (hhold started hs).append x (hkeeps _)⟩
  · trivial

omit h in
theorem tickOf_blind (hbad : ∀ spot es, ¬Good o spot es) (e : LevelEvent) :
    (tickOf settings o e).move = none := by
  unfold tickOf
  dsimp only
  split
  · rename_i spot es hok hspot hes
    exact absurd ⟨hok, hspot, hes⟩ (hbad spot es)
  · rfl

theorem justified_badQuality (hbad : ∀ spot es, ¬Good o spot es) :
    Justified settings ts o e (handleBadQuality (.event e) o settings) := by
  have hblind : ∀ e', PhaseEvidence settings (ts ++ [tickOf settings o e']) e :=
    fun e' => h.phase.blind (tickOf_blind hbad e')
  unfold handleBadQuality
  dsimp only
  split
  · exact justified_same h rfl rfl (hblind _)
  split
  · split
    · exact justified_ended h rfl rfl rfl rfl
    split
    · exact justified_same h rfl rfl (hblind _)
    · exact justified_same h rfl rfl (hblind _)
  split
  · exact justified_ended h rfl rfl rfl rfl
  split
  · exact justified_same h rfl rfl (hblind _)
  · exact justified_same h rfl rfl (hblind _)

omit h in
/-- An event before its thesis, once the observation has had its chance to show the inside. -/
structure Untested (ts : List Tick) (spot : ℚ) (e : LevelEvent) : Prop where
  sign : e.outsideDirection = 1 ∨ e.outsideDirection = -1
  inside : e.breakoutInsideSeen.isSome →
    (∃ x ∈ ts, x.Shows fun m => m ≤ 0) ∨ outsideMove e spot ≤ 0
  unlatched : e.breakoutExtensionSeen.isSome = false ∧ e.confirmStartedAt = none

theorem Supported.untested (hphase : e.phase = .approaching ∨ e.phase = .testing) (now : Instant) :
    Untested ts spot (latchBreakoutInsideEvidence e now spot) := by
  unfold latchBreakoutInsideEvidence
  split
  · rename_i hlatch
    exact ⟨h.sign, fun _ => .inr hlatch.2, h.unlatched hphase⟩
  · exact ⟨h.sign, fun hin => .inl (h.inside hin), h.unlatched hphase⟩

end

section

variable (h : Untested ts spot e)

include h

theorem Untested.inside_append {x : Tick}
    (hx : x.move = some (outsideMove e spot)) (hinside : e.breakoutInsideSeen.isSome) :
    ∃ y ∈ ts ++ [x], y.Shows fun m => m ≤ 0 := by
  rcases h.inside hinside with ⟨y, hy, hm⟩ | hm
  · exact ⟨y, mem_append_left _ hy, hm⟩
  · exact ⟨x, mem_append_right _ (mem_singleton_self x), _, hx, hm⟩

theorem Untested.abs_move : |outsideMove e spot| = |spot - e.level| := by
  rcases h.sign with hsign | hsign <;> simp [outsideMove, hsign, abs_sub_comm]

theorem justified_approaching (hgood : Good o spot es)
    (hphase : e.phase = .approaching) :
    Justified settings ts o e (advanceApproaching e o spot es settings) := by
  have hno : ∀ ts, PhaseEvidence settings ts e := fun ts => by simp [PhaseEvidence, hphase]
  unfold advanceApproaching
  split
  · rename_i htest
    rintro e' ⟨⟩
    refine ⟨⟨h.sign, h.inside_append (tickOf_move hgood _), fun _ => h.unlatched, ?_⟩, nofun⟩
    refine ⟨_, mem_append_right _ (mem_singleton_self _), (tickOf_shows hgood _ _).mpr ?_⟩
    change |outsideMove e spot| ≤ settings.testPoints
    rwa [h.abs_move]
  split
  · rintro e' ⟨⟩
  · rintro e' ⟨⟩
    refine ⟨⟨h.sign, h.inside_append (tickOf_move hgood _), fun _ => h.unlatched, ?_⟩, ?_⟩
    · exact hno _
    · exact fun hc => by simp [hphase] at hc

theorem justified_testing (hgood : Good o spot es)
    (hbuffer : 0 < settings.breakBufferPoints) (hphase : e.phase = .testing)
    (htested : ∃ x ∈ ts, x.Shows fun m => |m| ≤ settings.testPoints) :
    Justified settings ts o e (advanceTesting e o spot es settings) := by
  have hstays : ∀ x, PhaseEvidence settings (ts ++ [x]) e := by
    intro x
    obtain ⟨y, hy, hm⟩ := htested
    simp only [PhaseEvidence, hphase]
    exact ⟨y, mem_append_left _ hy, hm⟩
  unfold advanceTesting
  split
  · -- The inside was seen before this tick, which stands outside.
    rename_i hcross
    have hinside : ∃ x ∈ ts, x.Shows fun m => m ≤ 0 :=
      (h.inside hcross.1).resolve_right fun hin =>
        lt_irrefl 0 (lt_of_lt_of_le hbuffer (hcross.2.trans hin))
    rintro e' ⟨⟩
    refine ⟨⟨h.sign, h.inside_append (tickOf_move hgood _), nofun, ?_⟩, nofun⟩
    refine ⟨rfl, h.unlatched.1, h.unlatched.2, _, [],
      ⟨⟨ts, rfl, htested, fun _ => hinside⟩, ?_, ?_⟩,
      rfl⟩
    · exact (tickOf_shows hgood _ _).mpr hcross.2
    · simp
  split
  · rintro e' ⟨⟩
    exact ⟨⟨h.sign, h.inside_append (tickOf_move hgood _), fun _ => h.unlatched, hstays _⟩,
      fun hc => by simp [hphase] at hc⟩
  split
  · rename_i hreject
    rintro e' ⟨⟩
    refine ⟨⟨h.sign, h.inside_append (tickOf_move hgood _), nofun, ?_⟩, nofun⟩
    refine ⟨rfl, _, [], ⟨⟨ts, rfl, htested, nofun⟩, ?_, ?_⟩, rfl⟩
    · exact (tickOf_shows hgood _ _).mpr hreject
    · simp
  · rintro e' ⟨⟩
    exact ⟨⟨h.sign, h.inside_append (tickOf_move hgood _), fun _ => h.unlatched, hstays _⟩,
      fun hc => by simp [hphase] at hc⟩

end

end Steps

end SpxSpark.OrderMap
