import Mathlib.Algebra.Order.Ring.Star
import Mathlib.Data.Rat.Star
import SpxSpark.Lib.Clock
import SpxSpark.Lib.Run

/-!
# BreakWatch — the watch on a freshly broken level

A spot beyond a wall or the flip zone arms a watch with the time of the break; the watch says later
whether the break holds or was reclaimed, and its readers take `brokenAt` for a fresh break.
-/

namespace SpxSpark.OrderMap.BreakWatch

open Lib

/-- What the watch reads of `OrderMapPolicy`, which checks it. -/
structure WatchPolicy where
  flatPoints : ℚ
  reclaimMinMinutes : ℚ
  reclaimMaxMinutes : ℚ
  flat_pos : 0 < flatPoints
  min_pos : 0 < reclaimMinMinutes
  min_lt_max : reclaimMinMinutes < reclaimMaxMinutes

/-- `DEFAULT_ORDER_MAP_POLICY`. -/
def WatchPolicy.default : WatchPolicy :=
  ⟨3, 10, 90, by norm_num, by norm_num, by norm_num⟩

inductive Side
  | below
  | above
  deriving DecidableEq

inductive BrokenKind
  | putWall
  | callWall
  | flipLow
  | flipHigh
  deriving DecidableEq

inductive BreakOutcome
  | holds
  | reclaimed
  | pending
  deriving DecidableEq

structure Watch where
  level : ℚ
  kind : BrokenKind
  brokenSide : Side
  brokenAt : Instant
  paceAtBreak : String
  spotAtBreak : ℚ
  confirmedAt : Option Instant
  outcome : Option BreakOutcome
  deriving DecidableEq

/-- Which break a watch is about. -/
def Watch.mark (w : Watch) : ℚ × Side × Instant := (w.level, w.brokenSide, w.brokenAt)

/-- The levels of the map; the ends of the flip zone as `finite_float` reads them. -/
structure Levels where
  putWall : Option ℚ
  callWall : Option ℚ
  flipZone : Option (List (Option ℚ))

structure Observation where
  spot : Option ℚ
  pace : String
  now : Instant

def Levels.flipBounds (levels : Levels) : Option (ℚ × ℚ) :=
  match levels.flipZone with
  | some (some lo :: some hi :: _) => some (if lo ≤ hi then (lo, hi) else (hi, lo))
  | _ => none

section

variable (policy : WatchPolicy) (levels : Levels)

/-- The spot is past the level by more than the flat band. -/
def Beyond (level : ℚ) (side : Side) (spot : ℚ) : Prop :=
  match side with
  | .below => spot < level - policy.flatPoints
  | .above => level + policy.flatPoints < spot

instance (level : ℚ) (side : Side) (spot : ℚ) : Decidable (Beyond policy level side spot) := by
  cases side <;> exact inferInstanceAs (Decidable (_ < _))

def Watch.ageMinutes (w : Watch) (now : Instant) : ℚ := secondsBetween now w.brokenAt / 60

/-- What becomes of a watch, before a new one is armed. -/
def settle (w : Watch) (spot : ℚ) (now : Instant) : Option Watch × Option BreakOutcome :=
  let confirmed := { w with confirmedAt := some now, outcome := some .holds }
  if policy.reclaimMaxMinutes < w.ageMinutes now then (none, none)
  else if policy.reclaimMinMinutes ≤ w.ageMinutes now then
    match w.brokenSide with
    | .below =>
      if w.level + policy.flatPoints ≤ spot then (none, some .reclaimed)
      else if spot ≤ w.level - policy.flatPoints then (some confirmed, some .holds)
      else (some w, some .pending)
    | .above =>
      if spot ≤ w.level - policy.flatPoints then (none, some .reclaimed)
      else if w.level + policy.flatPoints ≤ spot then (some confirmed, some .holds)
      else (some w, some .pending)
  else (some w, some .pending)

/-- The level that the spot has broken, in the order in which they are tried. -/
def brokenLevel (spot : ℚ) : Option (ℚ × BrokenKind × Side) :=
  let tried (level : Option ℚ) (kind : BrokenKind) (side : Side) :=
    (level.filter fun level => Beyond policy level side spot).map (·, kind, side)
  (tried levels.putWall .putWall .below).or <|
    (tried levels.callWall .callWall .above).or <|
      (tried (levels.flipBounds.map (·.1)) .flipLow .below).or <|
        tried (levels.flipBounds.map (·.2)) .flipHigh .above

def newWatch (spot : ℚ) (o : Observation) : Option Watch :=
  (brokenLevel policy levels spot).map fun (level, kind, side) =>
    ⟨level, kind, side, o.now, o.pace, spot, none, none⟩

/-- What a call answers, and the watch it armed. -/
structure Answer where
  watch : Option Watch
  outcome : Option BreakOutcome
  armed : Option Watch

def settleWatch (previous : Option Watch) (spot : ℚ) (now : Instant) :
    Option Watch × Option BreakOutcome :=
  match previous with
  | none => (none, none)
  | some w => settle policy w spot now

/-- `update_break_watch`. A reclaimed watch is dropped, so the second test of the source for arming
adds nothing. -/
def updateBreakWatch (previous : Option Watch) (o : Observation) : Answer :=
  match o.spot with
  | none => ⟨previous, none, none⟩
  | some spot =>
    match settleWatch policy previous spot o.now with
    | (some w, outcome) => ⟨some w, outcome, none⟩
    | (none, outcome) =>
      let armed := newWatch policy levels spot o
      ⟨armed, if armed.isSome then some (outcome.getD .pending) else outcome, armed⟩

/-- The next call is given the watch of this one. -/
def observe (previous : Option Watch) (o : Observation) : Answer × Option Watch :=
  (updateBreakWatch policy levels previous o, (updateBreakWatch policy levels previous o).watch)

/-- No watch is dropped for its age while the spot is still beyond its level. -/
def DroppedInside (previous : Option Watch) (o : Observation) : Prop :=
  ∀ w ∈ previous, ∀ spot ∈ o.spot, policy.reclaimMaxMinutes < w.ageMinutes o.now →
    ¬ Beyond policy w.level w.brokenSide spot

instance (previous : Option Watch) (o : Observation) :
    Decidable (DroppedInside policy previous o) :=
  inferInstanceAs (Decidable (∀ w ∈ previous, ∀ spot ∈ o.spot, _ → ¬ _))

abbrev Log := List (Observation × Answer)

/-- One of the calls saw a spot that is not beyond the level. -/
def Left (log : Log) (level : ℚ) (side : Side) : Prop :=
  ∃ e ∈ log, ∃ spot ∈ e.1.spot, ¬ Beyond policy level side spot

/-- An active watch is about the break that was armed last, and has its time. -/
def OfLastBreak (log : Log) (watch : Option Watch) : Prop :=
  ∀ w ∈ watch, ∃ past first rest a, log = past ++ first :: rest ∧ first.2.armed = some a ∧
    w.mark = a.mark ∧ a.brokenAt = first.1.now ∧ ∀ e ∈ rest, e.2.armed = none

/-- As long as the spot stays beyond the level, the watch keeps its time. -/
def KeepsTime (log : Log) (watch : Option Watch) : Prop :=
  ∀ past first rest a, log = past ++ first :: rest → first.2.armed = some a →
    Left policy rest a.level a.brokenSide ∨ ∃ w ∈ watch, w.mark = a.mark

/-- The watches of a run mark fresh breaks. -/
structure Fresh (log : Log) (watch : Option Watch) : Prop where
  active : OfLastBreak log watch
  kept : KeepsTime policy log watch
  /-- Between two armings of one level and side the spot has left it. -/
  apart : ∀ past first between second rest a b,
    log = past ++ first :: (between ++ second :: rest) → first.2.armed = some a →
      second.2.armed = some b → b.level = a.level → b.brokenSide = a.brokenSide →
        Left policy between a.level a.brokenSide
  /-- A break is found to hold or reclaimed within its minutes. -/
  timely : ∀ past e rest, log = past ++ e :: rest →
    e.2.outcome = some .holds ∨ e.2.outcome = some .reclaimed →
      ∃ before first between a, past = before ++ first :: between ∧ first.2.armed = some a ∧
        (∀ x ∈ between, x.2.armed = none) ∧
          policy.reclaimMinMinutes ≤ secondsBetween e.1.now first.1.now / 60 ∧
            secondsBetween e.1.now first.1.now / 60 ≤ policy.reclaimMaxMinutes

end

/-! ## One call -/

section

variable {policy : WatchPolicy} {levels : Levels} {previous : Option Watch} {w w' a : Watch}
  {spot : ℚ} {now : Instant} {o : Observation} {outcome : Option BreakOutcome} {answer : Answer}

theorem settle_mark (h : settle policy w spot now = (some w', outcome)) : w'.mark = w.mark := by
  unfold settle at h
  dsimp only at h
  split at h
  · cases h
  · split at h
    · split at h <;> split at h
      all_goals first | cases h | split at h <;> cases h <;> rfl
    · cases h
      rfl

theorem settle_timely {result : Option Watch × Option BreakOutcome}
    (hresult : settle policy w spot now = result)
    (h : result.2 = some .holds ∨ result.2 = some .reclaimed) :
    policy.reclaimMinMinutes ≤ w.ageMinutes now ∧ w.ageMinutes now ≤ policy.reclaimMaxMinutes := by
  subst hresult
  unfold settle at h
  dsimp only at h
  split at h
  · simp at h
  · rename_i hmax
    split at h
    · rename_i hmin
      exact ⟨hmin, not_lt.mp hmax⟩
    · simp at h

theorem settle_beyond (hage : w.ageMinutes now ≤ policy.reclaimMaxMinutes)
    (h : Beyond policy w.level w.brokenSide spot) : ∃ w',
    (settle policy w spot now).1 = some w' := by
  have hflat := policy.flat_pos
  unfold settle
  unfold Beyond at h
  rw [if_neg (not_lt.mpr hage)]
  split
  · cases hside : w.brokenSide with
    | below =>
      rw [hside] at h
      dsimp only at h ⊢
      rw [if_neg (by linarith), if_pos (by linarith)]
      exact ⟨_, rfl⟩
    | above =>
      rw [hside] at h
      dsimp only at h ⊢
      rw [if_neg (by linarith), if_pos (by linarith)]
      exact ⟨_, rfl⟩
  · exact ⟨_, rfl⟩

theorem newWatch_beyond (h : newWatch policy levels spot o = some a) :
    Beyond policy a.level a.brokenSide spot ∧ a.brokenAt = o.now := by
  obtain ⟨⟨level, kind, side⟩, hbroken, rfl⟩ := Option.map_eq_some_iff.mp h
  refine ⟨?_, rfl⟩
  have htried : ∀ {tried : Option ℚ} {k : BrokenKind} {s : Side},
      (tried.filter fun level => Beyond policy level s spot).map (·, k, s) =
        some (level, kind, side) → Beyond policy level side spot := by
    intro tried k s htried
    obtain ⟨found, hfound, heq⟩ := Option.map_eq_some_iff.mp htried
    cases heq
    exact of_decide_eq_true (Option.filter_eq_some_iff.mp hfound).2
  unfold brokenLevel at hbroken
  simp only [Option.or_eq_some_iff] at hbroken
  rcases hbroken with h | ⟨-, h | ⟨-, h | ⟨-, h⟩⟩⟩
  all_goals exact htried h

/-- What one call can do. -/
inductive Calls (policy : WatchPolicy) (levels : Levels) (previous : Option Watch)
    (o : Observation) : Answer → Prop
  | blind (hspot : o.spot = none) : Calls policy levels previous o ⟨previous, none, none⟩
  | watched {w : Watch} {spot : ℚ} {outcome : Option BreakOutcome} (hspot : o.spot = some spot)
      (h : settleWatch policy previous spot o.now = (some w, outcome)) :
      Calls policy levels previous o ⟨some w, outcome, none⟩
  | unwatched {spot : ℚ} {outcome : Option BreakOutcome} {armed : Option Watch}
      (hspot : o.spot = some spot)
      (h : settleWatch policy previous spot o.now = (none, outcome))
      (harmed : newWatch policy levels spot o = armed) : Calls policy levels previous o
        ⟨armed, if armed.isSome then some (outcome.getD .pending) else outcome, armed⟩

variable (policy levels previous o) in
theorem updateBreakWatch_calls :
    Calls policy levels previous o (updateBreakWatch policy levels previous o) := by
  unfold updateBreakWatch
  cases hspot : o.spot with
  | none => exact .blind hspot
  | some spot =>
    dsimp only
    rcases hsettle : settleWatch policy previous spot o.now with ⟨_ | w, outcome⟩
    · exact .unwatched hspot hsettle rfl
    · exact .watched hspot hsettle

namespace Calls

theorem mark_kept (h : Calls policy levels previous o answer) (hnone : answer.armed = none) :
    ∀ w' ∈ answer.watch, ∃ w ∈ previous, w'.mark = w.mark := by
  cases h with
  | blind => exact fun w' hw' => ⟨w', hw', rfl⟩
  | watched _ hsettle =>
    cases previous with
    | none => cases hsettle
    | some w =>
      rintro w' ⟨⟩
      exact ⟨w, rfl, settle_mark hsettle⟩
  | unwatched =>
    subst hnone
    nofun

theorem armed_beyond (h : Calls policy levels previous o answer) (ha : answer.armed = some a) :
    answer.watch = some a ∧ a.brokenAt = o.now ∧
      ∀ spot ∈ o.spot, Beyond policy a.level a.brokenSide spot := by
  cases h with
  | unwatched hspot _ harmed =>
    obtain ⟨hbeyond, hat⟩ := newWatch_beyond (harmed.trans ha)
    refine ⟨ha, hat, fun spot hmem => ?_⟩
    cases hspot.symm.trans hmem
    exact hbeyond
  | _ => cases ha

theorem watch_stays (h : Calls policy levels (some w) o answer)
    (hok : DroppedInside policy (some w) o)
    (hbeyond : ∀ spot ∈ o.spot, Beyond policy w.level w.brokenSide spot) :
    answer.armed = none ∧ ∃ w' ∈ answer.watch, w'.mark = w.mark := by
  cases h with
  | blind => exact ⟨rfl, w, rfl, rfl⟩
  | watched _ hsettle => exact ⟨rfl, _, rfl, settle_mark hsettle⟩
  | @unwatched spot _ _ hspot hsettle =>
    have hage : w.ageMinutes o.now ≤ policy.reclaimMaxMinutes :=
      not_lt.mp fun hold => hok w rfl spot hspot hold (hbeyond spot hspot)
    obtain ⟨w', hw'⟩ := settle_beyond hage (hbeyond spot hspot)
    cases hw'.symm.trans (congrArg Prod.fst hsettle)

theorem outcome_timely (h : Calls policy levels previous o answer)
    (houtcome : answer.outcome = some .holds ∨ answer.outcome = some .reclaimed) :
    ∃ w ∈ previous, policy.reclaimMinMinutes ≤ w.ageMinutes o.now ∧
      w.ageMinutes o.now ≤ policy.reclaimMaxMinutes := by
  have hsettled : ∀ {spot settled outcome},
      settleWatch policy previous spot o.now = (settled, outcome) →
      outcome = some .holds ∨ outcome = some .reclaimed → ∃ w ∈ previous,
        policy.reclaimMinMinutes ≤ w.ageMinutes o.now ∧
          w.ageMinutes o.now ≤ policy.reclaimMaxMinutes := by
    intro spot settled outcome hsettle houtcome
    cases previous with
    | none =>
      cases hsettle
      simp at houtcome
    | some w => exact ⟨w, rfl, settle_timely hsettle houtcome⟩
  cases h with
  | blind => simp at houtcome
  | watched _ hsettle => exact hsettled hsettle houtcome
  | @unwatched _ outcome armed _ hsettle =>
    refine hsettled hsettle ?_
    cases armed <;> cases outcome <;> simp_all

end Calls

end

/-! ## Runs -/

section

variable {policy : WatchPolicy} {levels : Levels} {log : Log} {watch : Option Watch}

theorem run_active {ok : Option Watch → Observation → Prop}
    (h : Run (observe policy levels) ok none log watch) : OfLastBreak log watch := by
  induction h with
  | nil => nofun
  | @snoc log watch o _ _ ih =>
    have hcalls := updateBreakWatch_calls policy levels watch o
    intro w hw
    cases harmed : (updateBreakWatch policy levels watch o).armed with
    | none =>
      obtain ⟨w₀, hw₀, hmark⟩ := hcalls.mark_kept harmed w hw
      obtain ⟨past, first, rest, a, rfl, hfirst, ha, hat, hrest⟩ := ih w₀ hw₀
      refine ⟨past, first, rest ++ [(o, (observe policy levels watch o).1)], a, by simp, hfirst,
        hmark.trans ha, hat, ?_⟩
      exact List.forall_mem_append.mpr ⟨hrest, List.forall_mem_singleton.mpr harmed⟩
    | some a =>
      obtain ⟨hwatch, hat, -⟩ := hcalls.armed_beyond harmed
      obtain rfl : a = w := Option.some.inj (hwatch.symm.trans hw)
      exact ⟨log, (o, (observe policy levels watch o).1), [], a, rfl, harmed, rfl, hat, by simp⟩

/-- **The watch keeps its time** until the spot has left the level. -/
theorem run_kept (h : Run (observe policy levels) (DroppedInside policy) none log watch) :
    KeepsTime policy log watch := by
  induction h with
  | nil => simp [KeepsTime]
  | @snoc log watch o _ hok ih =>
    have hcalls := updateBreakWatch_calls policy levels watch o
    intro past first rest a hlog hfirst
    rcases Run.snoc_split hlog with ⟨rfl, rfl, rfl⟩ | ⟨rest, rfl, rfl⟩
    · exact .inr ⟨a, (hcalls.armed_beyond hfirst).1, rfl⟩
    · rcases ih past first rest a rfl hfirst with ⟨e, he, hleft⟩ | ⟨w, hw, hmark⟩
      · exact .inl ⟨e, List.mem_append_left _ he, hleft⟩
      · by_cases hbeyond : ∀ spot ∈ o.spot, Beyond policy a.level a.brokenSide spot
        · have hsame : w.level = a.level ∧ w.brokenSide = a.brokenSide := by
            simp only [Watch.mark, Prod.mk.injEq] at hmark
            exact ⟨hmark.1, hmark.2.1⟩
          rw [← hsame.1, ← hsame.2] at hbeyond
          subst hw
          obtain ⟨-, w', hw', hmark'⟩ := hcalls.watch_stays hok hbeyond
          exact .inr ⟨w', hw', hmark'.trans hmark⟩
        · push Not at hbeyond
          exact .inl ⟨_, List.mem_append_right _ (List.mem_singleton_self _), hbeyond⟩

/-- **The watches mark fresh breaks** in every run that drops a watch for its age only when the spot
has come back. -/
theorem break_watch_fresh
    (h : Run (observe policy levels) (DroppedInside policy) none log watch) :
    Fresh policy log watch := by
  refine ⟨run_active h, run_kept h, ?_, ?_⟩
  · rintro past first between ⟨o, answer⟩ rest a b rfl hfirst hsecond hlevel hside
    rw [← List.cons_append, ← List.append_assoc] at h
    obtain ⟨s, hrun, hok, rfl⟩ := h.split
    have hcalls := updateBreakWatch_calls policy levels s o
    rcases run_kept hrun past first between a rfl hfirst with hleft | ⟨w, hw, hmark⟩
    · exact hleft
    · simp only [Watch.mark, Prod.mk.injEq] at hmark
      have hbeyond := (hcalls.armed_beyond hsecond).2.2
      rw [hlevel, hside, ← hmark.1, ← hmark.2.1] at hbeyond
      subst hw
      have hnone := (hcalls.watch_stays hok hbeyond).1
      cases hnone.symm.trans hsecond
  · rintro past ⟨o, answer⟩ rest rfl houtcome
    obtain ⟨s, hrun, -, rfl⟩ := h.split
    obtain ⟨w, hw, hage⟩ := (updateBreakWatch_calls _ _ _ _).outcome_timely houtcome
    obtain ⟨before, first, between, a, hpast, hfirst, hmark, hat, hnone⟩ := run_active hrun w hw
    simp only [Watch.mark, Prod.mk.injEq] at hmark
    rw [Watch.ageMinutes, hmark.2.2, hat] at hage
    exact ⟨before, first, between, a, hpast, hfirst, hnone, hage⟩

end

/-! ## A break, and a break that is not one -/

def wallAt100 : Levels := ⟨some 100, none, none⟩

/-- A spot so many minutes after the first one. -/
def seen (minutes : Int) (spot : ℚ) : Observation := ⟨some spot, "normal", minutes * 60000000⟩

def heldBreak : List Observation := [seen 0 90, seen 15 95, seen 20 104, seen 30 96]

theorem break_watch_fresh_held : Fresh .default (play (observe .default wallAt100) none heldBreak).1
      (play (observe .default wallAt100) none heldBreak).2 :=
  break_watch_fresh (Run.play (by decide +kernel))

/-- A spot that stays at 90 below the wall is a break again after 91 minutes. -/
theorem break_watch_renewed :
    ¬ ∀ policy levels log watch, Run (observe policy levels) anyStep none log watch →
      (log.map (·.1.now)).Pairwise (· ≤ ·) → Fresh policy log watch := by
  intro hall
  have hfresh := hall .default wallAt100 _ _ (run_play _ [seen 0 90, seen 91 90] _) (by decide)
  have hleft := hfresh.apart [] _ [] _ []
    ⟨100, .putWall, .below, 0, "normal", 90, none, none⟩
    ⟨100, .putWall, .below, 91 * 60000000, "normal", 90, none, none⟩
    rfl (by decide +kernel) (by decide +kernel) rfl rfl
  obtain ⟨e, he, -⟩ := hleft
  cases he

end SpxSpark.OrderMap.BreakWatch
