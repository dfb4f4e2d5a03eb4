import SpxSpark.MarketCalendar.Sessions

/-!
# Agreement — the resolvers tell one story

A moment is a day and a time of it. Which resolver answers depends on the time, on whether the day
and the day after it are trading days, and on the close: five cases, each with one open session, one
gap or the quiet between sessions.
-/

namespace SpxSpark.MarketCalendar

/-! ## A moment of a day -/

theorem wall_eq (current : Int) :
    current = dayOf current * dayLength + timeOf current ∧ 0 ≤ timeOf current ∧
      timeOf current < dayLength := by
  rw [dayOf, timeOf, dayLength]
  omega

def closeOf (day : Int) : Int :=
  combine day (if isScheduledEarlyClose day then earlyCloseTime else rthCloseTime)

theorem closeOf_bounds (day : Int) :
    combine day earlyCloseTime ≤ closeOf day ∧ closeOf day ≤ combine day rthCloseTime := by
  unfold closeOf combine earlyCloseTime rthCloseTime clockTime
  split <;> omega

variable {day : Int}

theorem session_of_trading (h : isTradingDay day = true) :
    ∃ found, session day = some found ∧ found.openAt = combine day rthOpenTime ∧
      found.closeAt = closeOf day := by
  rw [session, h]
  exact ⟨_, rfl, rfl, rfl⟩

theorem session_of_closed (h : isTradingDay day = false) : session day = none := by
  rw [session, h]
  rfl

theorem window_of_trading (h : isTradingDay day = true) :
    ∃ window, spxSessionWindow day = some window ∧
      window.sessionStart = combine (day - 1) spxGthOpenTime ∧
      window.gthEnd = combine day spxGthCloseTime ∧ window.rthOpen = combine day rthOpenTime ∧
      window.sessionEnd = closeOf day := by
  obtain ⟨found, hfound, hopen, hclose⟩ := session_of_trading h
  rw [spxSessionWindow, hfound]
  exact ⟨_, rfl, rfl, rfl, hopen, hclose⟩

theorem window_of_closed (h : isTradingDay day = false) : spxSessionWindow day = none := by
  rw [spxSessionWindow, session_of_closed h]
  rfl

/-! ## Which date a moment belongs to -/

section

variable {current : Int}

theorem dateFor_day (retain : Bool) (htime : timeOf current < spxGthOpenTime)
    (htrading : isTradingDay (dayOf current) = true) (hclose : current ≤ closeOf (dayOf current)) :
    spxSessionDateFor current retain = some (dayOf current) := by
  obtain ⟨window, hwindow, hstart, -, -, hend⟩ := window_of_trading htrading
  have hmoment := wall_eq current
  rw [spxSessionDateFor, if_neg (not_le.mpr htime), hwindow]
  refine if_pos ?_
  rw [Option.any_some, if_neg (not_le.mpr htime), Bool.and_eq_true, decide_eq_true_iff,
    decide_eq_true_iff, hstart, hend]
  refine ⟨?_, hclose⟩
  unfold combine spxGthOpenTime clockTime
  unfold dayLength at hmoment ⊢
  omega

theorem dateFor_day_outside (htime : timeOf current < spxGthOpenTime)
    (hout : isTradingDay (dayOf current) = false ∨ closeOf (dayOf current) < current)
    (retain : Bool) : spxSessionDateFor current retain =
      if retain then retainedDate current 15 (dayOf current) else none := by
  rw [spxSessionDateFor, if_neg (not_le.mpr htime)]
  have hnot : (spxSessionWindow (dayOf current)).any (fun window =>
      if spxGthOpenTime ≤ timeOf current then
        decide (window.sessionStart ≤ current) && decide (current < window.gthEnd)
      else decide (window.sessionStart ≤ current) && decide (current ≤ window.sessionEnd)) =
        false := by
    cases htrading : isTradingDay (dayOf current) with
    | false => rw [window_of_closed htrading]; rfl
    | true =>
      rw [htrading] at hout
      have hlate := hout.resolve_left (by decide)
      obtain ⟨window, hwindow, -, -, -, hend⟩ := window_of_trading htrading
      rw [hwindow, Option.any_some, if_neg (not_le.mpr htime), hend,
        decide_eq_false (not_le.mpr hlate), Bool.and_false]
  rw [hnot]
  cases retain <;> rfl

theorem dateFor_evening (retain : Bool) (htime : spxGthOpenTime ≤ timeOf current)
    (htrading : isTradingDay (dayOf current + 1) = true) :
    spxSessionDateFor current retain = some (dayOf current + 1) := by
  obtain ⟨window, hwindow, hstart, hgth, -, -⟩ := window_of_trading htrading
  have hmoment := wall_eq current
  rw [spxSessionDateFor, if_pos htime, nextTradingDay, tradingDayFrom_of_trading htrading, hwindow]
  refine if_pos ?_
  rw [Option.any_some, if_pos htime, Bool.and_eq_true, decide_eq_true_iff, decide_eq_true_iff,
    hstart, hgth]
  unfold combine spxGthCloseTime clockTime
  unfold dayLength spxGthOpenTime clockTime at *
  omega

theorem dateFor_evening_outside (htime : spxGthOpenTime ≤ timeOf current)
    (hclosed : isTradingDay (dayOf current + 1) = false) (retain : Bool) :
    spxSessionDateFor current retain =
      if retain then retainedDate current 15 (dayOf current) else none := by
  obtain ⟨htrading, hle, -⟩ := tradingDayFrom_spec (dayOf current + 1)
  obtain ⟨window, hwindow, hstart, -, -, -⟩ := window_of_trading htrading
  have hmoment := wall_eq current
  have hne : tradingDayFrom (dayOf current + 1) ≠ dayOf current + 1 := by
    intro heq
    rw [heq, hclosed] at htrading
    cases htrading
  rw [spxSessionDateFor, if_pos htime, nextTradingDay]
  have hnot : (spxSessionWindow (tradingDayFrom (dayOf current + 1))).any (fun window =>
      if spxGthOpenTime ≤ timeOf current then
        decide (window.sessionStart ≤ current) && decide (current < window.gthEnd)
      else decide (window.sessionStart ≤ current) && decide (current ≤ window.sessionEnd)) =
        false := by
    have hearly : ¬window.sessionStart ≤ current := by
      rw [hstart]
      unfold combine spxGthOpenTime clockTime
      unfold dayLength at hmoment ⊢
      omega
    rw [hwindow, Option.any_some, if_pos htime, decide_eq_false hearly, Bool.false_and]
  rw [hnot]
  cases retain <;> rfl

theorem retainedDate_spec : ∀ (days : ℕ) (candidate : Int),
    (∃ offset : ℕ, offset < days ∧ isTradingDay (candidate - offset) = true) →
    candidate ≤ dayOf current →
    ∃ day, retainedDate current days candidate = some day ∧ isTradingDay day = true ∧
      day ≤ candidate ∧ ∀ other, day < other → other ≤ candidate → isTradingDay other = false
  | 0, _, h, _ => by
      obtain ⟨_, hlt, _⟩ := h
      exact absurd hlt (Nat.not_lt_zero _)
  | days + 1, candidate, h, hle => by
      rw [retainedDate]
      cases htrading : isTradingDay candidate with
      | true =>
        obtain ⟨window, hwindow, hstart, -, -, -⟩ := window_of_trading htrading
        have hmoment := wall_eq current
        have hstarted : window.sessionStart ≤ current := by
          rw [hstart]
          unfold combine spxGthOpenTime clockTime
          unfold dayLength at hmoment ⊢
          omega
        rw [hwindow, Option.any_some, decide_eq_true hstarted, Bool.and_true, if_pos rfl]
        refine ⟨candidate, rfl, htrading, le_rfl, ?_⟩
        intro other hlt hle
        omega
      | false =>
        rw [Bool.false_and, if_neg (by decide)]
        have hrest : ∃ offset : ℕ, offset < days ∧
            isTradingDay (candidate - 1 - offset) = true := by
          obtain ⟨offset, hlt, hfound⟩ := h
          cases offset with
          | zero =>
            rw [Nat.cast_zero, sub_zero, htrading] at hfound
            cases hfound
          | succ offset =>
            refine ⟨offset, Nat.lt_of_succ_lt_succ hlt, ?_⟩
            rw [Nat.cast_succ, add_comm (offset : Int) 1, ← sub_sub] at hfound
            exact hfound
        obtain ⟨day, hday, hfound, hbefore, hbetween⟩ :=
          retainedDate_spec days (candidate - 1) hrest (by omega)
        refine ⟨day, hday, hfound, by omega, ?_⟩
        intro other hlt hother
        rcases eq_or_lt_of_le hother with rfl | hother
        · exact htrading
        · exact hbetween other hlt (by omega)

theorem retained_found (current : Int) :
    ∃ day, retainedDate current 15 (dayOf current) = some day ∧ isTradingDay day = true ∧
      day ≤ dayOf current ∧
      ∀ other, day < other → other ≤ dayOf current → isTradingDay other = false := by
  apply retainedDate_spec 15 (dayOf current) _ le_rfl
  obtain ⟨offset, hlt, htrading⟩ := exists_trading_day (dayOf current - 7)
  refine ⟨7 - offset, by omega, ?_⟩
  rw [Nat.cast_sub (by omega)]
  have hsame : dayOf current - ((7 : ℕ) - (offset : Int)) = dayOf current - 7 + offset := by
    push_cast
    ring
  rw [hsame]
  exact htrading

/-! ## The quiet between sessions -/

theorem quiet_of_retained (hdate : spxSessionDateFor current true = some day)
    (htrading : isTradingDay day = true) (hclose : closeOf day ≤ current)
    (hnext : current < combine (nextTradingDay day - 1) spxGthOpenTime) :
    isPostRthPreGthQuiet current = true := by
  obtain ⟨found, hfound, -, hend⟩ := session_of_trading htrading
  obtain ⟨hnextTrading, -, -⟩ := tradingDayFrom_spec (day + 1)
  obtain ⟨window, hwindow, hstart, -, -, -⟩ := window_of_trading hnextTrading
  rw [isPostRthPreGthQuiet, hdate]
  dsimp only
  rw [hfound]
  dsimp only
  rw [if_neg (by rw [hend]; exact not_lt.mpr hclose), nextTradingDay, hwindow, Option.any_some,
    hstart]
  exact decide_eq_true hnext

theorem quiet_before_close (hdate : spxSessionDateFor current true = some day)
    (htrading : isTradingDay day = true) (hclose : current < closeOf day) :
    isPostRthPreGthQuiet current = false := by
  obtain ⟨found, hfound, -, hend⟩ := session_of_trading htrading
  rw [isPostRthPreGthQuiet, hdate]
  dsimp only
  rw [hfound]
  dsimp only
  rw [if_pos (by rw [hend]; exact hclose)]

/-! ## The five kinds of moment -/

/-- Where a moment lies: up to the close of a trading day, after it, on a day without a session, or
in an evening before a trading day or before another. -/
inductive Moment (current : Int) : Prop
  | session : timeOf current < spxGthOpenTime → isTradingDay (dayOf current) = true →
      current ≤ closeOf (dayOf current) → Moment current
  | afterClose : timeOf current < spxGthOpenTime → isTradingDay (dayOf current) = true →
      closeOf (dayOf current) < current → Moment current
  | dayOff : timeOf current < spxGthOpenTime → isTradingDay (dayOf current) = false →
      Moment current
  | evening : spxGthOpenTime ≤ timeOf current → isTradingDay (dayOf current + 1) = true →
      Moment current
  | night : spxGthOpenTime ≤ timeOf current → isTradingDay (dayOf current + 1) = false →
      Moment current

theorem moment (current : Int) : Moment current := by
  rcases lt_or_ge (timeOf current) spxGthOpenTime with htime | htime
  · cases htrading : isTradingDay (dayOf current) with
    | false => exact .dayOff htime htrading
    | true =>
      rcases le_or_gt current (closeOf (dayOf current)) with hclose | hclose
      · exact .session htime htrading hclose
      · exact .afterClose htime htrading hclose
  · cases htrading : isTradingDay (dayOf current + 1) with
    | false => exact .night htime htrading
    | true => exact .evening htime htrading

theorem quiet_outside (hdate : spxSessionDateFor current true =
      retainedDate current 15 (dayOf current))
    (hclose : isTradingDay (dayOf current) = true → closeOf (dayOf current) ≤ current)
    (hnext : spxGthOpenTime ≤ timeOf current → isTradingDay (dayOf current + 1) = false) :
    isPostRthPreGthQuiet current = true := by
  obtain ⟨day, hday, htrading, hle, hbetween⟩ := retained_found current
  obtain ⟨hnextTrading, hafter, -⟩ := tradingDayFrom_spec (day + 1)
  have hmoment := wall_eq current
  have hbounds := closeOf_bounds day
  apply quiet_of_retained (hdate.trans hday) htrading
  · rcases eq_or_lt_of_le hle with rfl | hlt
    · exact hclose htrading
    · refine hbounds.2.trans ?_
      unfold combine rthCloseTime clockTime
      unfold dayLength at hmoment ⊢
      omega
  · -- the next trading day lies after this one, and after tomorrow once the evening has begun
    have hlater : dayOf current < nextTradingDay day := by
      by_contra hnot
      rw [nextTradingDay] at hnot
      rw [hbetween _ (by omega) (by omega)] at hnextTrading
      cases hnextTrading
    have hevening : spxGthOpenTime ≤ timeOf current → dayOf current + 1 < nextTradingDay day := by
      intro htime
      have hne : nextTradingDay day ≠ dayOf current + 1 := by
        intro heq
        rw [nextTradingDay] at heq
        rw [heq, hnext htime] at hnextTrading
        cases hnextTrading
      omega
    unfold combine
    unfold spxGthOpenTime clockTime at *
    unfold dayLength at *
    omega

theorem resolvedSegment_none (h : spxSessionDateFor current false = none) :
    resolvedSegment current = none := by
  rw [resolvedSegment, h]
  rfl

theorem resolvedSegment_session (htime : timeOf current < spxGthOpenTime)
    (htrading : isTradingDay (dayOf current) = true) (hclose : current ≤ closeOf (dayOf current)) :
    resolvedSegment current =
      if timeOf current < spxGthCloseTime then some .gth
      else if timeOf current < rthOpenTime then some .closedGap else some .rth := by
  obtain ⟨window, hwindow, hstart, hgth, hopen, hend⟩ := window_of_trading htrading
  have hmoment := wall_eq current
  rw [resolvedSegment, dateFor_day false htime htrading hclose, Option.bind_some, hwindow,
    Option.bind_some, SpxSessionWindow.segmentAt, hstart, hgth, hopen, hend]
  unfold combine spxGthOpenTime spxGthCloseTime rthOpenTime clockTime
  unfold dayLength at hmoment ⊢
  by_cases hmorning : timeOf current < (9 * 60 + 25) * 60000000
  · rw [if_pos hmorning, if_pos (by omega)]
  · rw [if_neg hmorning, if_neg (by omega)]
    by_cases hgap : timeOf current < (9 * 60 + 30) * 60000000
    · rw [if_pos hgap, if_pos (by omega)]
    · rw [if_neg hgap, if_neg (by omega), if_pos ⟨by omega, hclose⟩]

theorem resolvedSegment_evening (htime : spxGthOpenTime ≤ timeOf current)
    (htrading : isTradingDay (dayOf current + 1) = true) : resolvedSegment current = some .gth := by
  obtain ⟨window, hwindow, hstart, hgth, -, -⟩ := window_of_trading htrading
  have hmoment := wall_eq current
  rw [resolvedSegment, dateFor_evening false htime htrading, Option.bind_some, hwindow,
    Option.bind_some, SpxSessionWindow.segmentAt, hstart, hgth]
  refine if_pos ?_
  unfold spxGthOpenTime at *
  unfold combine spxGthCloseTime
  unfold clockTime at *
  unfold dayLength at *
  omega

theorem isRthOpen_of_closed (h : isTradingDay (dayOf current) = false) :
    isRthOpen current = false := by
  rw [isRthOpen, session_of_closed h]

theorem isRthOpen_of_trading (h : isTradingDay (dayOf current) = true) : isRthOpen current =
      decide (rthOpenTime ≤ timeOf current ∧ current < closeOf (dayOf current)) := by
  obtain ⟨found, hfound, hopen, hend⟩ := session_of_trading h
  have hmoment := wall_eq current
  rw [isRthOpen, hfound]
  dsimp only
  rw [hopen, hend, decide_eq_decide]
  unfold combine
  unfold dayLength at hmoment ⊢
  constructor <;> rintro ⟨hafter, hbefore⟩ <;> exact ⟨by omega, hbefore⟩

/-! ## The research expiry -/

/-- The day, or the next one once its 17:00 has passed. -/
def researchFrom (current : Int) : Int :=
  if timeOf current < reviewReadyTime then dayOf current else dayOf current + 1

theorem researchExpiry_eq (current : Int) :
    researchExpiry current = tradingDayFrom (researchFrom current) := by
  rw [researchExpiry, researchFrom]
  cases htrading : isTradingDay (dayOf current) with
  | true =>
    by_cases htime : timeOf current < reviewReadyTime
    · rw [if_pos ⟨rfl, htime⟩, if_pos htime, tradingDayFrom_of_trading htrading]
    · rw [if_neg (fun h => htime h.2), if_pos rfl, if_neg htime]
      rfl
  | false =>
    rw [if_neg (fun h => nomatch h.1), if_neg (by decide)]
    split
    · rfl
    · exact tradingDayFrom_of_closed htrading

theorem researchFrom_mono {later : Int} (h : current ≤ later) :
    researchFrom current ≤ researchFrom later := by
  have hmoment := wall_eq current
  have hmoment' := wall_eq later
  unfold researchFrom
  unfold dayLength at *
  split <;> split <;> omega

/-! ## The resolvers agree -/

theorem resolvedSegment_eq_some {segment : Segment} :
    resolvedSegment current = some segment ↔ ∃ day window,
      spxSessionDateFor current false = some day ∧ spxSessionWindow day = some window ∧
        window.segmentAt current = some segment := by
  rw [resolvedSegment]
  constructor
  · intro h
    obtain ⟨window, hwindow, hsegment⟩ := Option.bind_eq_some_iff.mp h
    obtain ⟨day, hday, hwindow⟩ := Option.bind_eq_some_iff.mp hwindow
    exact ⟨day, window, hday, hwindow, hsegment⟩
  · rintro ⟨day, window, hday, hwindow, hsegment⟩
    rw [hday, Option.bind_some, hwindow, Option.bind_some]
    exact hsegment

/-- What the five resolvers say of a moment. -/
structure Resolved (current : Int) : Prop where
  gth : isSpxGthOpen current = true ↔ resolvedSegment current = some .gth
  rth : isRthOpen current = true ↔ ∃ day window, spxSessionDateFor current false = some day ∧
    spxSessionWindow day = some window ∧ window.segmentAt current = some .rth ∧
      current < window.sessionEnd
  expiry : ∀ day, spxSessionDateFor current false = some day → day = researchExpiry current
  one : [isSpxGthOpen current, decide (resolvedSegment current = some .closedGap),
    isRthOpen current, isPostRthPreGthQuiet current].count true = 1

theorem resolved_session (htime : timeOf current < spxGthOpenTime)
    (htrading : isTradingDay (dayOf current) = true) (hclose : current ≤ closeOf (dayOf current)) :
    Resolved current := by
  have hsegment := resolvedSegment_session htime htrading hclose
  have hdate := dateFor_day false htime htrading hclose
  obtain ⟨window, hwindow, -, -, -, hend⟩ := window_of_trading htrading
  have hmoment := wall_eq current
  have hbounds := closeOf_bounds (dayOf current)
  have hgth : isSpxGthOpen current = decide (timeOf current < spxGthCloseTime) := by
    rw [isSpxGthOpen, htrading, if_neg (not_le.mpr htime)]
    by_cases hmorning : timeOf current < spxGthCloseTime
    · rw [if_pos hmorning, decide_eq_true hmorning]
    · rw [if_neg hmorning, decide_eq_false hmorning]
  have hrth := isRthOpen_of_trading htrading
  have hquiet : isPostRthPreGthQuiet current = decide (¬current < closeOf (dayOf current)) := by
    have hretain := dateFor_day true htime htrading hclose
    by_cases hbefore : current < closeOf (dayOf current)
    · rw [quiet_before_close hretain htrading hbefore, decide_eq_false (not_not.mpr hbefore)]
    · rw [decide_eq_true hbefore]
      apply quiet_of_retained hretain htrading (not_lt.mp hbefore)
      obtain ⟨-, hnext, -⟩ := tradingDayFrom_spec (dayOf current + 1)
      unfold nextTradingDay combine
      unfold spxGthOpenTime clockTime at *
      unfold dayLength at *
      omega
  refine ⟨?_, ?_, ?_, ?_⟩
  · rw [hgth, hsegment, decide_eq_true_iff]
    by_cases hmorning : timeOf current < spxGthCloseTime
    · simp [hmorning]
    · rw [if_neg hmorning]
      split <;> simp [hmorning]
  · rw [hrth, decide_eq_true_iff]
    constructor
    · rintro ⟨hafter, hbefore⟩
      obtain ⟨day, window', hday, hwindow', hrthSegment⟩ :=
        resolvedSegment_eq_some.mp (hsegment.trans (by
          rw [if_neg, if_neg (not_lt.mpr hafter)]
          unfold spxGthCloseTime
          unfold rthOpenTime clockTime at *
          omega))
      obtain rfl := Option.some.inj (hdate.symm.trans hday)
      obtain rfl := Option.some.inj (hwindow.symm.trans hwindow')
      exact ⟨_, _, hday, hwindow, hrthSegment, hend ▸ hbefore⟩
    · rintro ⟨day, window', hday, hwindow', hrthSegment, hbefore⟩
      have hresolved := resolvedSegment_eq_some.mpr ⟨day, window', hday, hwindow', hrthSegment⟩
      obtain rfl := Option.some.inj (hdate.symm.trans hday)
      obtain rfl := Option.some.inj (hwindow.symm.trans hwindow')
      rw [hend] at hbefore
      refine ⟨?_, hbefore⟩
      rw [hsegment] at hresolved
      by_contra hearly
      rw [if_pos (not_le.mp hearly)] at hresolved
      split at hresolved <;> cases hresolved
  · intro day hday
    obtain rfl := Option.some.inj (hdate.symm.trans hday)
    rw [researchExpiry, if_pos]
    refine ⟨htrading, ?_⟩
    unfold combine rthCloseTime at hbounds
    unfold reviewReadyTime
    unfold clockTime at *
    unfold dayLength at *
    omega
  · have hopens : spxGthCloseTime < rthOpenTime ∧
        (timeOf current < rthOpenTime → current < closeOf (dayOf current)) := by
      unfold combine earlyCloseTime at hbounds
      unfold spxGthCloseTime rthOpenTime
      unfold clockTime at *
      unfold dayLength at *
      constructor
      · decide
      · intro _
        omega
    rw [hgth, hrth, hquiet, hsegment]
    by_cases hmorning : timeOf current < spxGthCloseTime
    · have hbefore := hopens.2 (hmorning.trans hopens.1)
      simp [hmorning, hbefore, not_le.mpr (hmorning.trans hopens.1)]
    · by_cases hgap : timeOf current < rthOpenTime
      · simp [hmorning, hgap, hopens.2 hgap]
      · by_cases hbefore : current < closeOf (dayOf current)
        · simp [hmorning, hgap, hbefore, not_lt.mp hgap]
        · simp [hmorning, hgap, hbefore, not_lt.mp hgap]

theorem resolved_outside (hnone : spxSessionDateFor current false = none)
    (hgth : isSpxGthOpen current = false) (hrth : isRthOpen current = false)
    (hquiet : isPostRthPreGthQuiet current = true) : Resolved current := by
  have hsegment := resolvedSegment_none hnone
  refine ⟨?_, ?_, ?_, ?_⟩
  · rw [hgth, hsegment]
    simp
  · rw [hrth, hnone]
    simp
  · rw [hnone]
    intro day hday
    cases hday
  · rw [hgth, hrth, hquiet, hsegment]
    decide

theorem isRthOpen_of_late (h : isTradingDay (dayOf current) = true →
    closeOf (dayOf current) ≤ current) : isRthOpen current = false := by
  cases htrading : isTradingDay (dayOf current) with
  | false => exact isRthOpen_of_closed htrading
  | true =>
    rw [isRthOpen_of_trading htrading, decide_eq_false]
    exact fun hopen => absurd hopen.2 (not_lt.mpr (h htrading))

theorem closeOf_le_evening (htime : spxGthOpenTime ≤ timeOf current) :
    closeOf (dayOf current) ≤ current := by
  have hmoment := wall_eq current
  have hbounds := closeOf_bounds (dayOf current)
  unfold combine rthCloseTime at hbounds
  unfold spxGthOpenTime at htime
  unfold clockTime at *
  unfold dayLength at *
  omega

theorem resolved_evening (htime : spxGthOpenTime ≤ timeOf current)
    (htrading : isTradingDay (dayOf current + 1) = true) : Resolved current := by
  have hsegment := resolvedSegment_evening htime htrading
  have hdate := dateFor_evening false htime htrading
  have hlate := closeOf_le_evening htime
  have hrth := isRthOpen_of_late fun _ => hlate
  have hmoment := wall_eq current
  have hnotMorning : ¬timeOf current < spxGthCloseTime := by
    unfold spxGthOpenTime at htime
    unfold spxGthCloseTime
    unfold clockTime at *
    omega
  have hgth : isSpxGthOpen current = true := by
    rw [isSpxGthOpen, if_neg hnotMorning, if_pos htime, htrading]
  have hquiet : isPostRthPreGthQuiet current = false := by
    apply quiet_before_close (dateFor_evening true htime htrading) htrading
    have hbounds := closeOf_bounds (dayOf current + 1)
    unfold combine earlyCloseTime at hbounds
    unfold clockTime at *
    unfold dayLength at *
    omega
  refine ⟨?_, ?_, ?_, ?_⟩
  · rw [hgth, hsegment]
    simp
  · rw [hrth]
    constructor
    · intro h
      cases h
    · rintro ⟨day, window, hday, hwindow, hrthSegment, -⟩
      have hresolved := resolvedSegment_eq_some.mpr ⟨day, window, hday, hwindow, hrthSegment⟩
      rw [hsegment] at hresolved
      cases hresolved
  · intro day hday
    obtain rfl := Option.some.inj (hdate.symm.trans hday)
    rw [researchExpiry_eq, researchFrom, if_neg, tradingDayFrom_of_trading htrading]
    unfold spxGthOpenTime at htime
    unfold reviewReadyTime
    unfold clockTime at *
    omega
  · rw [hgth, hrth, hquiet, hsegment]
    decide

/-- **Every moment is told alike by all resolvers.** -/
theorem resolved (current : Int) : Resolved current := by
  have hmoment := wall_eq current
  cases moment current with
  | session htime htrading hclose => exact resolved_session htime htrading hclose
  | afterClose htime htrading hclose =>
    have hbounds := closeOf_bounds (dayOf current)
    have hlate : ¬timeOf current < spxGthCloseTime := by
      unfold combine earlyCloseTime at hbounds
      unfold spxGthCloseTime
      unfold clockTime at *
      unfold dayLength at *
      omega
    apply resolved_outside
    · rw [dateFor_day_outside htime (.inr hclose) false]
      rfl
    · rw [isSpxGthOpen, if_neg hlate, if_neg (not_le.mpr htime)]
    · exact isRthOpen_of_late fun _ => hclose.le
    · apply quiet_outside
      · rw [dateFor_day_outside htime (.inr hclose) true]
        rfl
      · exact fun _ => hclose.le
      · intro hevening
        exact absurd hevening (not_le.mpr htime)
  | dayOff htime hclosed =>
    apply resolved_outside
    · rw [dateFor_day_outside htime (.inl hclosed) false]
      rfl
    · rw [isSpxGthOpen, hclosed, if_neg (not_le.mpr htime)]
      split <;> rfl
    · exact isRthOpen_of_closed hclosed
    · apply quiet_outside
      · rw [dateFor_day_outside htime (.inl hclosed) true]
        rfl
      · intro htrading
        rw [hclosed] at htrading
        cases htrading
      · intro hevening
        exact absurd hevening (not_le.mpr htime)
  | evening htime htrading => exact resolved_evening htime htrading
  | night htime hclosed =>
    have hlate := closeOf_le_evening htime
    have hnotMorning : ¬timeOf current < spxGthCloseTime := by
      unfold spxGthOpenTime at htime
      unfold spxGthCloseTime
      unfold clockTime at *
      omega
    apply resolved_outside
    · rw [dateFor_evening_outside htime hclosed false]
      rfl
    · rw [isSpxGthOpen, if_neg hnotMorning, if_pos htime, hclosed]
    · exact isRthOpen_of_late fun _ => hlate
    · apply quiet_outside
      · rw [dateFor_evening_outside htime hclosed true]
        rfl
      · exact fun _ => hlate
      · exact fun _ => hclosed

end

theorem researchExpiry_mono (zone : EasternClock) {now later : Instant} (h : now ≤ later) :
    researchExpiry (zone.asEt now) ≤ researchExpiry (zone.asEt later) := by
  rw [researchExpiry_eq, researchExpiry_eq]
  apply tradingDayFrom_mono
  rcases le_or_gt (zone.asEt now) (zone.asEt later) with hle | hback
  · exact researchFrom_mono hle
  · -- both readings are of one morning
    obtain ⟨hday, hmorning⟩ := zone.set_back now later h hback
    have hmoment := wall_eq (zone.asEt now)
    have hmoment' := wall_eq (zone.asEt later)
    rw [researchFrom, researchFrom, hday]
    rw [hday] at hmoment'
    unfold reviewReadyTime
    unfold clockTime at *
    rw [if_pos (by omega), if_pos (by omega)]

/-- **The session resolvers agree.** At every instant the overnight session, the closed gap, the
regular session and the quiet are told alike, exactly one of them holds, a resolved date is the
research expiry, and the research expiry is a trading day that never goes back. -/
theorem session_resolvers_agree (zone : EasternClock) (now : Instant) :
    (isSpxGthOpen (zone.asEt now) = true ↔ ∃ day window,
      spxSessionDateFor (zone.asEt now) false = some day ∧ spxSessionWindow day = some window ∧
        window.segmentAt (zone.asEt now) = some .gth) ∧
    (isRthOpen (zone.asEt now) = true ↔ ∃ day window,
      spxSessionDateFor (zone.asEt now) false = some day ∧ spxSessionWindow day = some window ∧
        window.segmentAt (zone.asEt now) = some .rth ∧ zone.asEt now < window.sessionEnd) ∧
    (∀ day, spxSessionDateFor (zone.asEt now) false = some day →
      day = researchExpiry (zone.asEt now)) ∧
    [isSpxGthOpen (zone.asEt now), decide (resolvedSegment (zone.asEt now) = some .closedGap),
      isRthOpen (zone.asEt now), isPostRthPreGthQuiet (zone.asEt now)].count true = 1 ∧
    isTradingDay (researchExpiry (zone.asEt now)) = true ∧
    ∀ later, now ≤ later → researchExpiry (zone.asEt now) ≤ researchExpiry (zone.asEt later) := by
  obtain ⟨hgth, hrth, hexpiry, hone⟩ := resolved (zone.asEt now)
  refine ⟨hgth.trans resolvedSegment_eq_some, hrth, hexpiry, hone, ?_, ?_⟩
  · rw [researchExpiry_eq]
    exact (tradingDayFrom_spec _).1
  · intro later hlater
    exact researchExpiry_mono zone hlater

/-- The wall clock of a winter: five hours behind. -/
def winterClock : EasternClock where
  asEt now := now - 5 * 3600000000
  set_back := by
    intro now later hle hback
    exact absurd hback (not_lt.mpr (Int.sub_le_sub_right hle _))

/-- On the evening of the last day of 1969 and a day later. -/
theorem winter_evening_agrees : [isSpxGthOpen (winterClock.asEt 0),
      decide (resolvedSegment (winterClock.asEt 0) = some .closedGap),
      isRthOpen (winterClock.asEt 0), isPostRthPreGthQuiet (winterClock.asEt 0)].count true = 1 ∧
    researchExpiry (winterClock.asEt 0) ≤ researchExpiry (winterClock.asEt 86400000000) := by
  obtain ⟨-, -, -, hone, -, hmono⟩ := session_resolvers_agree winterClock 0
  exact ⟨hone, hmono 86400000000 (by decide)⟩

end SpxSpark.MarketCalendar
