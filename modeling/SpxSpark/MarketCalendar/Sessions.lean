import SpxSpark.Lib.Clock
import SpxSpark.MarketCalendar.Holidays

/-!
# Sessions — the sessions of the default calendar

All resolvers read the wall clock of New York, a number of microseconds: two times of one zone are
compared by their wall clocks.
-/

namespace SpxSpark.MarketCalendar

/-! ## The wall clock -/

/-- A reading of the wall clock is the number of its microseconds since day 0 began. -/
def dayLength : Int := 86400000000

/-- `time(hour, minute)`. -/
def clockTime (hour minute : Int) : Int := (hour * 60 + minute) * 60000000

variable (current : Int)

def dayOf : Int := current / dayLength

def timeOf : Int := current % dayLength

/-- `datetime.combine(day, time, tzinfo=ET)`. -/
def combine (day time : Int) : Int := day * dayLength + time

/-- The zone of New York: the wall clock of an instant. It is set back only within the morning of a
day. -/
structure EasternClock where
  asEt : Instant → Int
  set_back : ∀ now later, now ≤ later → asEt later < asEt now →
    dayOf (asEt later) = dayOf (asEt now) ∧ timeOf (asEt now) < clockTime 13 0

def rthOpenTime : Int := clockTime 9 30
def rthCloseTime : Int := clockTime 16 0
def earlyCloseTime : Int := clockTime 13 0
def reviewReadyTime : Int := clockTime 17 0
def spxGthOpenTime : Int := clockTime 20 15
def spxGthCloseTime : Int := clockTime 9 25

/-! ## Sessions and windows -/

structure MarketSession where
  tradingDate : Int
  openAt : Int
  closeAt : Int
  reviewReadyAt : Int
  earlyClose : Bool

def isScheduledEarlyClose (day : Int) : Bool :=
  let civil := Lib.Calendar.civilOfDay day
  let thanksgiving := nthWeekday civil.year 11 3 4
  day = thanksgiving + 1 || (civil.month = 7 && civil.day = 3) ||
    (civil.month = 12 && civil.day = 24)

def session (day : Int) : Option MarketSession :=
  if !isTradingDay day then none
  else
    let closeTime := if isScheduledEarlyClose day then earlyCloseTime else rthCloseTime
    some {
      tradingDate := day
      openAt := combine day rthOpenTime
      closeAt := combine day closeTime
      reviewReadyAt := combine day reviewReadyTime
      earlyClose := closeTime ≠ rthCloseTime }

inductive Segment
  | gth
  | closedGap
  | rth
  deriving DecidableEq

structure SpxSessionWindow where
  tradingDate : Int
  sessionStart : Int
  gthEnd : Int
  rthOpen : Int
  sessionEnd : Int

def SpxSessionWindow.segmentAt (window : SpxSessionWindow) (moment : Int) : Option Segment :=
  if window.sessionStart ≤ moment ∧ moment < window.gthEnd then some .gth
  else if window.gthEnd ≤ moment ∧ moment < window.rthOpen then some .closedGap
  else if window.rthOpen ≤ moment ∧ moment ≤ window.sessionEnd then some .rth
  else none

def spxSessionWindow (day : Int) : Option SpxSessionWindow :=
  (session day).map fun session => {
    tradingDate := day
    sessionStart := combine (day - 1) spxGthOpenTime
    gthEnd := combine day spxGthCloseTime
    rthOpen := session.openAt
    sessionEnd := session.closeAt }

/-! ## Looking for a trading day -/

/-- The walk `while not is_trading_day(candidate): candidate += 1 day`, of so many days at most. -/
def walkForward : ℕ → Int → Int
  | 0, candidate => candidate
  | fuel + 1, candidate =>
    if isTradingDay candidate then candidate else walkForward fuel (candidate + 1)

/-- The first trading day from a day on; eight days always hold one. -/
def tradingDayFrom (day : Int) : Int := walkForward 8 day

def nextTradingDay (day : Int) : Int := tradingDayFrom (day + 1)

/-! ## The resolvers -/

def isRthOpen : Bool :=
  match session (dayOf current) with
  | none => false
  | some session => decide (session.openAt ≤ current ∧ current < session.closeAt)

def isSpxGthOpen : Bool :=
  if timeOf current < spxGthCloseTime then isTradingDay (dayOf current)
  else if spxGthOpenTime ≤ timeOf current then isTradingDay (dayOf current + 1)
  else false

/-- The most recent trading date whose window has started, of the last so many days. -/
def retainedDate (current : Int) : ℕ → Int → Option Int
  | 0, _ => none
  | days + 1, candidate =>
    if isTradingDay candidate &&
        (spxSessionWindow candidate).any (fun window => window.sessionStart ≤ current) then
      some candidate
    else retainedDate current days (candidate - 1)

def spxSessionDateFor (retainCompleted : Bool) : Option Int :=
  let candidate :=
    if spxGthOpenTime ≤ timeOf current then nextTradingDay (dayOf current) else dayOf current
  let inside (window : SpxSessionWindow) : Bool :=
    if spxGthOpenTime ≤ timeOf current then
      window.sessionStart ≤ current && current < window.gthEnd
    else window.sessionStart ≤ current && current ≤ window.sessionEnd
  if (spxSessionWindow candidate).any inside then some candidate
  else if !retainCompleted then none
  else retainedDate current 15 (dayOf current)

def isPostRthPreGthQuiet : Bool :=
  match spxSessionDateFor current true with
  | none => false
  | some completedDay =>
    match session completedDay with
    | none => false
    | some completed =>
      if current < completed.closeAt then false
      else
        let nextDay := nextTradingDay completedDay
        (spxSessionWindow nextDay).any fun window => current < window.sessionStart

def researchExpiry : Int :=
  let day := dayOf current
  if isTradingDay day ∧ timeOf current < reviewReadyTime then day
  else if isTradingDay day then nextTradingDay day
  else tradingDayFrom day

/-- The segment of the window that holds the moment. -/
def resolvedSegment : Option Segment :=
  ((spxSessionDateFor current false).bind spxSessionWindow).bind fun window =>
    window.segmentAt current

/-! ## The walks find a trading day -/

theorem walkForward_spec : ∀ (fuel : ℕ) (day : Int),
    (∃ offset : ℕ, offset < fuel ∧ isTradingDay (day + offset) = true) →
    isTradingDay (walkForward fuel day) = true ∧ day ≤ walkForward fuel day ∧
      ∀ other, day ≤ other → other < walkForward fuel day → isTradingDay other = false
  | 0, _, h => by
      obtain ⟨_, hlt, _⟩ := h
      exact absurd hlt (Nat.not_lt_zero _)
  | fuel + 1, day, h => by
      rw [walkForward]
      split
      · next htrading =>
        refine ⟨htrading, le_refl _, ?_⟩
        intro other hle hlt
        omega
      · next hclosed =>
        have hrest : ∃ offset : ℕ, offset < fuel ∧ isTradingDay (day + 1 + offset) = true := by
          obtain ⟨offset, hlt, htrading⟩ := h
          cases offset with
          | zero => exact absurd (by simpa using htrading) hclosed
          | succ offset =>
            refine ⟨offset, Nat.lt_of_succ_lt_succ hlt, ?_⟩
            rw [Nat.cast_succ, add_comm (offset : Int) 1, ← add_assoc] at htrading
            exact htrading
        obtain ⟨hfound, hle, hbetween⟩ := walkForward_spec fuel (day + 1) hrest
        refine ⟨hfound, by omega, ?_⟩
        intro other hother hlt
        rcases eq_or_lt_of_le hother with rfl | hother
        · exact Bool.not_eq_true _ ▸ hclosed
        · exact hbetween other (by omega) hlt

theorem tradingDayFrom_spec (day : Int) :
    isTradingDay (tradingDayFrom day) = true ∧ day ≤ tradingDayFrom day ∧
      ∀ other, day ≤ other → other < tradingDayFrom day → isTradingDay other = false :=
  walkForward_spec 8 day (exists_trading_day day)

theorem tradingDayFrom_of_trading {day : Int} (h : isTradingDay day = true) :
    tradingDayFrom day = day := by
  obtain ⟨-, hle, hbetween⟩ := tradingDayFrom_spec day
  by_contra hne
  rw [hbetween day le_rfl (by omega)] at h
  cases h

theorem tradingDayFrom_of_closed {day : Int} (h : isTradingDay day = false) :
    tradingDayFrom day = tradingDayFrom (day + 1) := by
  obtain ⟨htrading, hle, hbetween⟩ := tradingDayFrom_spec day
  obtain ⟨htrading', hle', hbetween'⟩ := tradingDayFrom_spec (day + 1)
  have hne : tradingDayFrom day ≠ day := by
    intro heq
    rw [heq, h] at htrading
    cases htrading
  rcases lt_trichotomy (tradingDayFrom day) (tradingDayFrom (day + 1)) with hlt | heq | hgt
  · rw [hbetween' _ (by omega) hlt] at htrading
    cases htrading
  · exact heq
  · rw [hbetween _ (by omega) hgt] at htrading'
    cases htrading'

theorem tradingDayFrom_mono {day later : Int} (h : day ≤ later) :
    tradingDayFrom day ≤ tradingDayFrom later := by
  obtain ⟨htrading, hle, -⟩ := tradingDayFrom_spec later
  obtain ⟨-, -, hbetween⟩ := tradingDayFrom_spec day
  by_contra hgt
  rw [hbetween _ (by omega) (by omega)] at htrading
  cases htrading

end SpxSpark.MarketCalendar
