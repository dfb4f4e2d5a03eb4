import Mathlib.Data.Int.ConditionallyCompleteOrder
import SpxSpark.Lib.Run
import SpxSpark.Lib.Text

/-!
# CapacityTracker — the estimate of how many market-data lines the broker allows

The estimate starts at the configured capacity. A ticker-limit error lowers it to the largest line
count seen so far, ten full successes in a row raise it by one, and every call that changes it saves
it.
-/

namespace SpxSpark.Ibkr

open Lib

/-! ## The estimate and its file -/

@[ext]
structure CapacityEstimate where
  configuredCapacity : Int
  estimatedCapacity : Int
  observedLowerBound : Int := 0
  activeHighWatermark : Int := 0
  consecutiveFullSuccesses : Int := 0
  lastRejectionAt : Option String := none
  lastUpdatedAt : Option String := none

def CapacityEstimate.initial (configuredCapacity : Int) : CapacityEstimate where
  configuredCapacity := max configuredCapacity 1
  estimatedCapacity := max configuredCapacity 1

def tickerLimitErrorCodes : List Int := [101]

def tickerLimitMessageMarkers : List String :=
  ["max number of tickers", "maximum number of market data", "market data lines"]

/-- `lower` is `str.lower`. -/
def isTickerLimitError (lower : String → String) (errorCode : Int) (message : String) : Bool :=
  errorCode ∈ tickerLimitErrorCodes ∨
    ∃ marker ∈ tickerLimitMessageMarkers, containsText marker.toList (lower message).toList

def positiveInt (value : Int) : Option Int := if 0 < value then some value else none

/-- `str(value) if value else None`. -/
def optionalText (value : Option String) : Option String := value.filter (· ≠ "")

/-- The file holds what `save_capacity_estimate` wrote, or is missing. -/
def loadCapacityEstimate (file : Option CapacityEstimate) (configuredCapacity : Int) :
    CapacityEstimate :=
  let initial := CapacityEstimate.initial configuredCapacity
  match file with
  | none => initial
  | some payload =>
    let estimated := (positiveInt payload.estimatedCapacity).getD initial.estimatedCapacity
    { configuredCapacity := initial.configuredCapacity
      estimatedCapacity := min estimated initial.configuredCapacity
      observedLowerBound := max payload.observedLowerBound 0
      activeHighWatermark := max payload.activeHighWatermark 0
      consecutiveFullSuccesses := max payload.consecutiveFullSuccesses 0
      lastRejectionAt := optionalText payload.lastRejectionAt
      lastUpdatedAt := optionalText payload.lastUpdatedAt }

/-! ## The tracker -/

/-- The saved file at the tracker's path, and the estimate in memory. -/
structure MarketDataCapacityTracker where
  file : Option CapacityEstimate
  state : CapacityEstimate

namespace MarketDataCapacityTracker

def load (file : Option CapacityEstimate) (configuredCapacity : Int) :
    MarketDataCapacityTracker :=
  { file, state := loadCapacityEstimate file configuredCapacity }

def effectiveCapacity (tracker : MarketDataCapacityTracker) : Int :=
  min tracker.state.estimatedCapacity tracker.state.configuredCapacity

def saveCapacityEstimate (tracker : MarketDataCapacityTracker) : MarketDataCapacityTracker :=
  { tracker with file := some tracker.state }

/-- The counters after a success, before the estimate is looked at. -/
def countSuccess (state : CapacityEstimate) (active : Int) : CapacityEstimate :=
  { state with
    observedLowerBound := max state.observedLowerBound active
    activeHighWatermark := max state.activeHighWatermark active
    consecutiveFullSuccesses :=
      if active ≥ state.estimatedCapacity then state.consecutiveFullSuccesses + 1 else 0 }

def observeSuccess (tracker : MarketDataCapacityTracker) (activeLines : Int) (stamp : String) :
    MarketDataCapacityTracker :=
  let counted := countSuccess tracker.state (max activeLines 0)
  if counted.consecutiveFullSuccesses ≥ 10 ∧
      counted.estimatedCapacity < counted.configuredCapacity then
    saveCapacityEstimate
      { tracker with
        state :=
          { counted with
            estimatedCapacity := counted.estimatedCapacity + 1
            consecutiveFullSuccesses := 0
            lastUpdatedAt := some stamp } }
  else { tracker with state := counted }

def observeError (lower : String → String) (tracker : MarketDataCapacityTracker)
    (errorCode : Int) (message : String) (activeLines : Int) (stamp : String) :
    Bool × MarketDataCapacityTracker :=
  if isTickerLimitError lower errorCode message then
    let active := max activeLines 1
    let observed := max tracker.state.observedLowerBound active
    (true, saveCapacityEstimate
      { tracker with
        state :=
          { tracker.state with
            observedLowerBound := observed
            activeHighWatermark := max tracker.state.activeHighWatermark active
            estimatedCapacity := min tracker.state.estimatedCapacity (max active observed)
            consecutiveFullSuccesses := 0
            lastRejectionAt := some stamp
            lastUpdatedAt := some stamp } })
  else (false, tracker)

/-! ## Runs -/

inductive Call
  | observeSuccess (activeLines : Int) (stamp : String)
  | observeError (errorCode : Int) (message : String) (activeLines : Int) (stamp : String)
  | reload

/-- The line count a call reports. -/
def Call.lines : Call → Option Int
  | .observeSuccess activeLines _ => some activeLines
  | .observeError _ _ activeLines _ => some activeLines
  | .reload => none

variable {lower : String → String} {configured : Int}

def step (lower : String → String) (configured : Int) (tracker : MarketDataCapacityTracker) :
    Call → Bool × MarketDataCapacityTracker
  | .observeSuccess activeLines stamp => (true, tracker.observeSuccess activeLines stamp)
  | .observeError errorCode message activeLines stamp =>
    tracker.observeError lower errorCode message activeLines stamp
  | .reload => (true, load tracker.file configured)

/-- What every reachable tracker keeps. The saved estimate is the one in memory, and it is saved
only with a cleared success counter; without a file the estimate has never been changed. -/
structure Sound (configured : Int) (tracker : MarketDataCapacityTracker) : Prop where
  config : tracker.state.configuredCapacity = max configured 1
  positive : 1 ≤ tracker.state.estimatedCapacity
  atMost : tracker.state.estimatedCapacity ≤ tracker.state.configuredCapacity
  unsaved : tracker.file = none →
    tracker.state.estimatedCapacity = tracker.state.configuredCapacity
  saved : ∀ payload, tracker.file = some payload →
    payload.estimatedCapacity = tracker.state.estimatedCapacity ∧
      payload.consecutiveFullSuccesses = 0 ∧
      payload.observedLowerBound ≤ tracker.state.observedLowerBound

variable {tracker : MarketDataCapacityTracker}

section

variable (h : Sound configured tracker)

include h

theorem Sound.effective : tracker.effectiveCapacity = tracker.state.estimatedCapacity :=
  min_eq_left h.atMost

omit h in
theorem load_none_sound (configured : Int) : Sound configured (load none configured) where
  config := rfl
  positive := le_max_right _ _
  atMost := le_rfl
  unsaved _ := rfl
  saved _ h := nomatch h

omit h in
theorem saved_sound {state : CapacityEstimate} {file : Option CapacityEstimate}
    (hconfig : state.configuredCapacity = max configured 1) (hpos : 1 ≤ state.estimatedCapacity)
    (hle : state.estimatedCapacity ≤ state.configuredCapacity)
    (hcounter : state.consecutiveFullSuccesses = 0) :
    Sound configured (saveCapacityEstimate { file, state }) where
  config := hconfig
  positive := hpos
  atMost := hle
  unsaved h := nomatch h
  saved payload h := by
    obtain rfl := Option.some.inj h
    exact ⟨rfl, hcounter, le_rfl⟩

theorem observeSuccess_sound (activeLines : Int) (stamp : String) :
    Sound configured (tracker.observeSuccess activeLines stamp) := by
  unfold observeSuccess
  dsimp only
  split
  · next hgrow =>
      have hlt : tracker.state.estimatedCapacity < tracker.state.configuredCapacity := hgrow.2
      apply saved_sound
      · exact h.config
      · show 1 ≤ tracker.state.estimatedCapacity + 1
        have := h.positive
        omega
      · show tracker.state.estimatedCapacity + 1 ≤ tracker.state.configuredCapacity
        omega
      · rfl
  · exact
      { config := h.config
        positive := h.positive
        atMost := h.atMost
        unsaved := h.unsaved
        saved := fun payload hp => by
          obtain ⟨hest, hcounter, hseen⟩ := h.saved payload hp
          exact ⟨hest, hcounter, hseen.trans (le_max_left _ _)⟩ }

theorem observeError_sound (errorCode : Int) (message : String)
    (activeLines : Int) (stamp : String) :
    Sound configured (tracker.observeError lower errorCode message activeLines stamp).2 := by
  unfold observeError
  split
  · apply saved_sound
    · exact h.config
    · have hactive : 1 ≤ max activeLines 1 := le_max_right _ _
      exact le_min h.positive (hactive.trans (le_max_left _ _))
    · exact (min_le_left _ _).trans h.atMost
    · rfl
  · exact h

theorem reload_state :
    (load tracker.file configured).state.estimatedCapacity = tracker.state.estimatedCapacity ∧
      (load tracker.file configured).state.consecutiveFullSuccesses = 0 ∧
      Sound configured (load tracker.file configured) := by
  obtain ⟨file, state⟩ := tracker
  cases file with
  | none =>
    exact ⟨h.config.symm.trans (h.unsaved rfl).symm, rfl, load_none_sound configured⟩
  | some payload =>
    obtain ⟨hest, hcounter, -⟩ := h.saved payload rfl
    have hpos : 0 < payload.estimatedCapacity := by
      rw [hest]
      exact h.positive
    have hle : payload.estimatedCapacity ≤ max configured 1 := by
      rw [hest, ← h.config]
      exact h.atMost
    have hloaded : (load (some payload) configured).state.estimatedCapacity
        = payload.estimatedCapacity := by
      show min ((positiveInt payload.estimatedCapacity).getD _) (max configured 1) = _
      rw [positiveInt, if_pos hpos]
      exact min_eq_left hle
    have hcount : (load (some payload) configured).state.consecutiveFullSuccesses = 0 := by
      show max payload.consecutiveFullSuccesses 0 = 0
      rw [hcounter, max_self]
    refine ⟨hloaded.trans hest, hcount, rfl, ?_, ?_, ?_, ?_⟩
    · rw [hloaded]
      exact hpos
    · rw [hloaded]
      exact hle
    · intro hnone
      cases hnone
    · intro payload' hp
      obtain rfl := Option.some.inj hp
      exact ⟨hloaded.symm, hcounter, le_max_left _ _⟩

theorem step_sound (call : Call) :
    Sound configured (step lower configured tracker call).2 := by
  cases call with
  | observeSuccess activeLines stamp => exact observeSuccess_sound h activeLines stamp
  | observeError errorCode message activeLines stamp =>
    exact observeError_sound h errorCode message activeLines stamp
  | reload => exact (reload_state h).2.2

end

variable {evs : List (Call × Bool)}

theorem run_sound (h : Run (step lower configured) anyStep (load none configured) evs tracker) :
    Sound configured tracker :=
  h.invariant (load_none_sound configured) fun _ call hs _ => step_sound hs call

/-! ## The lower bound -/

/-- At most one, or at most a line count that one of the calls reported. -/
def Reported (evs : List (Call × Bool)) (bound : Int) : Prop :=
  bound ≤ 1 ∨ ∃ ev ∈ evs, ∃ lines, ev.1.lines = some lines ∧ bound ≤ lines

theorem Reported.le {a b : Int} (hab : a ≤ b) (h : Reported evs b) : Reported evs a := by
  rcases h with hb | ⟨ev, hev, lines, hlines, hb⟩
  · exact .inl (hab.trans hb)
  · exact .inr ⟨ev, hev, lines, hlines, hab.trans hb⟩

theorem Reported.snoc {a : Int} (h : Reported evs a) (ev : Call × Bool) :
    Reported (evs ++ [ev]) a := by
  rcases h with hb | ⟨ev', hev, lines, hlines, hb⟩
  · exact .inl hb
  · exact .inr ⟨ev', List.mem_append_left _ hev, lines, hlines, hb⟩

theorem Reported.max_lines {a floor lines : Int} (h : Reported evs a) (hfloor : floor ≤ 1)
    {ev : Call × Bool} (hlines : ev.1.lines = some lines) :
    Reported (evs ++ [ev]) (max a (max lines floor)) := by
  rcases max_cases a (max lines floor) with ⟨hmax, -⟩ | ⟨hmax, -⟩
  · rw [hmax]
    exact h.snoc ev
  · rw [hmax]
    rcases max_cases lines floor with ⟨hmax', -⟩ | ⟨hmax', -⟩
    · rw [hmax']
      exact .inr ⟨ev, List.mem_append_right _ (List.mem_singleton_self _), lines, hlines, le_rfl⟩
    · rw [hmax']
      exact .inl hfloor

theorem observeSuccess_lowerBound (tracker : MarketDataCapacityTracker) (activeLines : Int)
    (stamp : String) : (tracker.observeSuccess activeLines stamp).state.observedLowerBound =
      max tracker.state.observedLowerBound (max activeLines 0) := by
  unfold observeSuccess
  dsimp only
  split <;> rfl

theorem reload_lowerBound (h : Sound configured tracker)
    (hseen : Reported evs tracker.state.observedLowerBound) :
    Reported evs (load tracker.file configured).state.observedLowerBound := by
  obtain ⟨file, state⟩ := tracker
  cases file with
  | none => exact .inl (show (0 : Int) ≤ 1 by decide)
  | some payload =>
    obtain ⟨-, -, hle⟩ := h.saved payload rfl
    show Reported evs (max payload.observedLowerBound 0)
    rcases max_cases payload.observedLowerBound 0 with ⟨hmax, -⟩ | ⟨hmax, -⟩
    · rw [hmax]
      exact hseen.le hle
    · rw [hmax]
      exact .inl (by decide)

theorem run_lowerBound
    (h : Run (step lower configured) anyStep (load none configured) evs tracker) :
    Reported evs tracker.state.observedLowerBound := by
  refine (h.invariant_log (I := fun evs tracker => Sound configured tracker ∧
    Reported evs tracker.state.observedLowerBound)
    ⟨load_none_sound configured, .inl (show (0 : Int) ≤ 1 by decide)⟩ ?_).2
  rintro evs s call ⟨hs, hseen⟩ -
  refine ⟨step_sound hs call, ?_⟩
  cases call with
  | observeSuccess activeLines stamp =>
    rw [step, observeSuccess_lowerBound]
    exact hseen.max_lines (by decide) rfl
  | observeError errorCode message activeLines stamp =>
    by_cases hcode : isTickerLimitError lower errorCode message = true
    · rw [step, observeError, if_pos hcode]
      exact hseen.max_lines (le_refl 1) rfl
    · rw [step, observeError, if_neg hcode]
      exact hseen.snoc _
  | reload => exact (reload_lowerBound hs hseen).snoc _

/-! ## Growth -/

/-- A success that fills an estimate of `capacity`, or an error that is not about tickers and so
is not looked at. -/
def Fills (lower : String → String) (capacity : Int) (tracker : MarketDataCapacityTracker)
    (call : Call) : Prop :=
  tracker.effectiveCapacity = capacity ∧
    ((∃ activeLines stamp, call = .observeSuccess activeLines stamp ∧ capacity ≤ activeLines) ∨
      ∃ errorCode message activeLines stamp,
        call = .observeError errorCode message activeLines stamp ∧
          isTickerLimitError lower errorCode message = false)

def Call.isSuccess : Call → Bool
  | .observeSuccess _ _ => true
  | _ => false

def successes (evs : List (Call × Bool)) : Nat := evs.countP fun ev => ev.1.isSuccess

theorem successes_snoc (evs : List (Call × Bool)) (ev : Call × Bool) :
    successes (evs ++ [ev]) = successes evs + if ev.1.isSuccess then 1 else 0 := by
  rw [successes, List.countP_append, List.countP_singleton]
  rfl

/-- The run ends in as many successes filling the present estimate as the counter says. -/
def Counted (lower : String → String) (configured : Int) (evs : List (Call × Bool))
    (tracker : MarketDataCapacityTracker) : Prop :=
  ∃ before filled past,
    evs = before ++ filled ∧
      Run (step lower configured) anyStep (load none configured) before past ∧
      Run (step lower configured) (Fills lower tracker.effectiveCapacity) past filled tracker ∧
      (successes filled : Int) = tracker.state.consecutiveFullSuccesses

theorem counted_zero (h : Run (step lower configured) anyStep (load none configured) evs tracker)
    (hzero : tracker.state.consecutiveFullSuccesses = 0) : Counted lower configured evs tracker :=
  ⟨evs, [], tracker, (List.append_nil evs).symm, h, .nil, hzero.symm⟩

theorem observeSuccess_cases (h : Sound configured tracker) (activeLines : Int) (stamp : String) :
    (activeLines < tracker.effectiveCapacity ∧
      (tracker.observeSuccess activeLines stamp).effectiveCapacity = tracker.effectiveCapacity ∧
      (tracker.observeSuccess activeLines stamp).state.consecutiveFullSuccesses = 0) ∨
    (tracker.effectiveCapacity ≤ activeLines ∧
      (tracker.observeSuccess activeLines stamp).effectiveCapacity = tracker.effectiveCapacity ∧
      (tracker.observeSuccess activeLines stamp).state.consecutiveFullSuccesses =
        tracker.state.consecutiveFullSuccesses + 1) ∨
    (tracker.effectiveCapacity ≤ activeLines ∧ 9 ≤ tracker.state.consecutiveFullSuccesses ∧
      (tracker.observeSuccess activeLines stamp).effectiveCapacity =
        tracker.effectiveCapacity + 1 ∧
      (tracker.observeSuccess activeLines stamp).state.consecutiveFullSuccesses = 0) := by
  have hpos := h.positive
  have heff := h.effective
  have heff' := (observeSuccess_sound h activeLines stamp).effective
  rw [heff, heff']
  by_cases hfull : max activeLines 0 ≥ tracker.state.estimatedCapacity
  · have hlines : tracker.state.estimatedCapacity ≤ activeLines := by omega
    by_cases hgrow : tracker.state.consecutiveFullSuccesses + 1 ≥ 10 ∧
        tracker.state.estimatedCapacity < tracker.state.configuredCapacity
    · have hstep : (tracker.observeSuccess activeLines stamp).state.estimatedCapacity =
            tracker.state.estimatedCapacity + 1 ∧
          (tracker.observeSuccess activeLines stamp).state.consecutiveFullSuccesses = 0 := by
        simp [observeSuccess, countSuccess, hfull, hgrow, saveCapacityEstimate]
      exact .inr (.inr ⟨hlines, by omega, hstep.1, hstep.2⟩)
    · have hstep : (tracker.observeSuccess activeLines stamp).state.estimatedCapacity =
            tracker.state.estimatedCapacity ∧
          (tracker.observeSuccess activeLines stamp).state.consecutiveFullSuccesses =
            tracker.state.consecutiveFullSuccesses + 1 := by
        simp [observeSuccess, countSuccess, hfull, hgrow]
      exact .inr (.inl ⟨hlines, hstep.1, hstep.2⟩)
  · have hstep : (tracker.observeSuccess activeLines stamp).state.estimatedCapacity =
          tracker.state.estimatedCapacity ∧
        (tracker.observeSuccess activeLines stamp).state.consecutiveFullSuccesses = 0 := by
      simp [observeSuccess, countSuccess, hfull]
    exact .inl ⟨by omega, hstep.1, hstep.2⟩

theorem run_counted (h : Run (step lower configured) anyStep (load none configured) evs tracker) :
    Counted lower configured evs tracker := by
  induction h with
  | nil => exact counted_zero .nil rfl
  | @snoc evs s call hrun _ ih =>
    have hs := run_sound hrun
    have hnext := hrun.snoc call trivial
    cases call with
    | observeSuccess activeLines stamp =>
      rcases observeSuccess_cases hs activeLines stamp with
        ⟨-, -, hzero⟩ | ⟨hfull, heff, hcount⟩ | ⟨-, -, -, hzero⟩
      · exact counted_zero hnext hzero
      · obtain ⟨before, filled, past, rfl, hbefore, hfilled, hlen⟩ := ih
        refine ⟨before, filled ++ [(.observeSuccess activeLines stamp, true)], past,
          List.append_assoc _ _ _, hbefore, ?_, ?_⟩
        · show Run _ (Fills lower (s.observeSuccess activeLines stamp).effectiveCapacity) _ _ _
          rw [heff]
          exact hfilled.snoc _ ⟨rfl, .inl ⟨activeLines, stamp, rfl, hfull⟩⟩
        · rw [successes_snoc, Nat.cast_add, hlen]
          exact hcount.symm
      · exact counted_zero hnext hzero
    | observeError errorCode message activeLines stamp =>
      by_cases hcode : isTickerLimitError lower errorCode message = true
      · refine counted_zero hnext ?_
        rw [step, observeError, if_pos hcode]
        rfl
      · rw [step, observeError, if_neg hcode]
        obtain ⟨before, filled, past, rfl, hbefore, hfilled, hlen⟩ := ih
        have hignored : (s.observeError lower errorCode message activeLines stamp) = (false, s) :=
          if_neg hcode
        refine ⟨before, filled ++ [(.observeError errorCode message activeLines stamp, false)],
          past, List.append_assoc _ _ _, hbefore, ?_, ?_⟩
        · refine hfilled.step_snoc ⟨rfl, .inr ⟨_, _, _, _, rfl, ?_⟩⟩ hignored
          exact Bool.eq_false_iff.mpr hcode
        · rw [successes_snoc, Nat.cast_add, hlen]
          exact add_zero _
    | reload => exact counted_zero hnext (reload_state hs).2.1

/-! ## What the estimate follows -/

/-- The estimate over every run of calls and reloads. A recognised error brings it down to the
largest count reported so far, this call's own included, and never up; it grows by one only, at
the tenth filling success since it last changed; a reload gives it back. -/
theorem effectiveCapacity_runs {evs : List (Call × Bool)} {tracker : MarketDataCapacityTracker}
    (h : Run (step lower configured) anyStep (load none configured) evs tracker) :
    (1 ≤ tracker.effectiveCapacity ∧
      tracker.effectiveCapacity ≤ tracker.state.configuredCapacity) ∧
    (∀ errorCode message activeLines stamp, isTickerLimitError lower errorCode message = true →
      let after := (tracker.observeError lower errorCode message activeLines stamp).2
      after.effectiveCapacity ≤ tracker.effectiveCapacity ∧
        (after.effectiveCapacity ≤ max activeLines 1 ∨
          ∃ ev ∈ evs, ∃ lines, ev.1.lines = some lines ∧ after.effectiveCapacity ≤ lines)) ∧
    (∀ call,
      let after := (step lower configured tracker call).2
      tracker.effectiveCapacity < after.effectiveCapacity →
      after.effectiveCapacity = tracker.effectiveCapacity + 1 ∧
        ∃ activeLines stamp before filled past,
          call = .observeSuccess activeLines stamp ∧ tracker.effectiveCapacity ≤ activeLines ∧
            evs = before ++ filled ∧
            Run (step lower configured) anyStep (load none configured) before past ∧
            Run (step lower configured) (Fills lower tracker.effectiveCapacity) past filled
              tracker ∧
            9 ≤ successes filled) ∧
    (load tracker.file configured).effectiveCapacity = tracker.effectiveCapacity := by
  have hs := run_sound h
  refine ⟨⟨?_, ?_⟩, ?_, ?_, ?_⟩
  · rw [hs.effective]
    exact hs.positive
  · rw [hs.effective]
    exact hs.atMost
  · intro errorCode message activeLines stamp hcode
    have hafter :
        (tracker.observeError lower errorCode message activeLines stamp).2.effectiveCapacity =
          min tracker.state.estimatedCapacity
            (max (max activeLines 1)
              (max tracker.state.observedLowerBound (max activeLines 1))) := by
      rw [(observeError_sound hs errorCode message activeLines stamp).effective, observeError,
        if_pos hcode]
      rfl
    dsimp only
    rw [hafter, hs.effective]
    refine ⟨min_le_left _ _, ?_⟩
    rcases run_lowerBound h with hone | ⟨ev, hev, lines, hlines, hle⟩
    · left
      omega
    · rcases le_total tracker.state.observedLowerBound (max activeLines 1) with hsmall | hlarge
      · left
        omega
      · right
        exact ⟨ev, hev, lines, hlines, by omega⟩
  · intro call
    dsimp only
    intro hgrew
    cases call with
    | observeSuccess activeLines stamp =>
      rcases observeSuccess_cases hs activeLines stamp with
        ⟨-, hsame, -⟩ | ⟨-, hsame, -⟩ | ⟨hfull, hnine, hgrow, -⟩
      · exact absurd hsame hgrew.ne'
      · exact absurd hsame hgrew.ne'
      · obtain ⟨before, filled, past, hevs, hbefore, hfilled, hcount⟩ := run_counted h
        exact ⟨hgrow, activeLines, stamp, before, filled, past, rfl, hfull, hevs, hbefore,
          hfilled, by omega⟩
    | observeError errorCode message activeLines stamp =>
      by_cases hcode : isTickerLimitError lower errorCode message = true
      · have hnext : Sound configured
            (tracker.observeError lower errorCode message activeLines stamp).2 :=
          observeError_sound hs errorCode message activeLines stamp
        rw [step, hnext.effective, hs.effective, observeError, if_pos hcode] at hgrew
        exact absurd hgrew (not_lt.mpr (min_le_left _ _))
      · rw [step, observeError, if_neg hcode] at hgrew
        exact absurd hgrew (lt_irrefl _)
    | reload =>
      obtain ⟨hest, -, hloaded⟩ := reload_state hs
      rw [step, hloaded.effective, hs.effective, hest] at hgrew
      exact absurd hgrew (lt_irrefl _)
  · obtain ⟨hest, -, hloaded⟩ := reload_state hs
    rw [hloaded.effective, hs.effective, hest]

/-- A tracker that has seen ninety lines work, told of the limit at fifty. -/
theorem effectiveCapacity_above_rejection : ∃ evs tracker,
      Run (step id 100) anyStep (load none 100) evs tracker ∧
        isTickerLimitError id 101 "Max number of tickers has been reached" = true ∧
        (tracker.observeError id 101 "Max number of tickers has been reached" 50
          "2026-07-24T15:00:00+00:00").2.effectiveCapacity = 90 ∧ ¬ (90 : Int) ≤ max 50 1 :=
  ⟨_, _, Run.snoc (.observeSuccess 90 "2026-07-24T14:00:00+00:00") .nil trivial, by decide,
    by decide, by decide⟩

/-- A rejection at fifty lines, nine successes that fill them, and a reply not about lines. -/
def filledNine : List Call :=
  .observeError 101 "Max number of tickers has been reached" 50 "2026-07-24T14:00:00+00:00" ::
    List.replicate 8 (.observeSuccess 50 "2026-07-24T14:10:00+00:00") ++
    [.observeError 200 "No security definition" 60 "2026-07-24T14:20:00+00:00",
      .observeSuccess 50 "2026-07-24T14:30:00+00:00"]

/-- The tenth success raises the estimate to fifty-one, and a rejection at forty takes it back to
the fifty lines that were rejected first. -/
theorem effectiveCapacity_regrown :
    let nine := play (step id 100) (load none 100) filledNine
    let tenth := Call.observeSuccess 50 "2026-07-24T14:40:00+00:00"
    let grown := (step id 100 nine.2 tenth).2
    let rejected := (grown.observeError id 101 "market data lines" 40 "2026-07-24T14:50:00+00:00").2
    (nine.2.effectiveCapacity = 50 ∧ grown.effectiveCapacity = 51 ∧
      ∃ before filled past, nine.1 = before ++ filled ∧
        Run (step id 100) anyStep (load none 100) before past ∧
        Run (step id 100) (Fills id 50) past filled nine.2 ∧ 9 ≤ successes filled) ∧
    (rejected.effectiveCapacity = 50 ∧ rejected.effectiveCapacity ≤ grown.effectiveCapacity ∧
      ∃ ev ∈ nine.1 ++ [(tenth, true)], ∃ lines, ev.1.lines = some lines ∧
        rejected.effectiveCapacity ≤ lines) ∧
    (load grown.file 100).effectiveCapacity = 51 := by
  intro nine tenth grown rejected
  have hrun := run_play (step id 100) filledNine (load none 100)
  have hnine : nine.2.effectiveCapacity = 50 := by decide +kernel
  have hgrown : grown.effectiveCapacity = 51 := by decide +kernel
  have hrejected : rejected.effectiveCapacity = 50 := by decide +kernel
  have hgrows := (effectiveCapacity_runs hrun).2.2.1 tenth (by
    show nine.2.effectiveCapacity < grown.effectiveCapacity
    omega)
  obtain ⟨-, -, -, before, filled, past, -, -, hevs, hbefore, hfilled, hcount⟩ := hgrows
  obtain ⟨-, hrejects, -, hreload⟩ := effectiveCapacity_runs (hrun.snoc tenth trivial)
  obtain ⟨hle, hfloor⟩ :=
    hrejects 101 "market data lines" 40 "2026-07-24T14:50:00+00:00" (by decide +kernel)
  refine ⟨⟨hnine, hgrown, before, filled, past, hevs, hbefore, ?_, hcount⟩,
    ⟨hrejected, hle, ?_⟩, hreload.trans hgrown⟩
  · rw [← hnine]
    exact hfilled
  · rcases hfloor with hforty | hseen
    · change rejected.effectiveCapacity ≤ 40 at hforty
      omega
    · exact hseen

end MarketDataCapacityTracker

end SpxSpark.Ibkr
