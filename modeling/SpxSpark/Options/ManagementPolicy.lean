import Mathlib.Data.List.Sort
import SpxSpark.Lib.Clock

/-!
# ManagementPolicy — one position replayed under the management policy

The marks of a position from its entry on are replayed in time order. Each mark may end the replay,
in a fixed order of precedence: too long a gap before it, the hard exit of the session, and then the
exits of the side the position was entered on.
-/

namespace SpxSpark.Options

inductive EntrySide
  | debit
  | credit
  deriving DecidableEq

inductive ExitReason
  | marksExhausted
  | sessionError
  | quoteGap
  | hardClose
  | profitTake
  | stopLoss
  | timeStop
  | premiumStop
  | trail
  deriving DecidableEq

structure ManagementPolicy where
  policyVersion : String := "management_policy.v2"
  profitArmReturnOnDebit : Option ℚ := some (1 / 2)
  trailAfterArmFraction : ℚ := 3 / 4
  trailFloorIsEntryDebit : Bool := true
  premiumStopFraction : Option ℚ := some (1 / 2)
  timeStopMinutes : Option ℤ := none
  hardExitEt : String := "15:45"
  feesPerLegPerSide : ℚ := 33 / 25
  entrySide : EntrySide := .debit
  creditTakeProfitFraction : Option ℚ := none
  creditStopLossMultiple : Option ℚ := none

def policyPriceEpsilon : ℚ := 1 / 1000000000

/-- Cash received on closing the position; a buyback is negative. -/
structure PolicyMark where
  at' : Instant
  liquidationValue : ℚ

@[ext]
structure PolicyLabel where
  tpArmed : Bool
  tpBeforeStop : Bool
  timeToArmSeconds : Option ℚ
  mfePoints : ℚ
  maePoints : ℚ
  policyPnlPoints : Option ℚ
  exitReason : ExitReason
  exitAt : Option Instant
  exitLiquidationValue : Option ℚ
  quoteGapSecondsMax : ℚ
  policyVersion : String
  feesPoints : ℚ

/-- The arguments both replays share. -/
structure PolicyArguments where
  entryPrice : ℚ
  contractCount : ℚ
  entryAt : Instant
  policy : ManagementPolicy := {}
  sessionDate : Option Int := none
  maxQuoteGapSeconds : Option ℚ := none

/-- `_hard_exit_at`: the instant of a New York wall clock time on the session's date, or on the
date of the entry. It fails on a text that is no time of day. -/
abbrev HardExitAt := Instant → String → Option Int → Except String Instant

namespace PolicyArguments

variable (arguments : PolicyArguments)

def check : Except String Unit :=
  if arguments.entryPrice ≤ 0 then .error "entry_price must be finite and positive"
  else if arguments.contractCount ≤ 0 ∨ arguments.contractCount.den ≠ 1 then
    .error "contract_count must be a positive integer contract count"
  else .ok ()

def hardExit (hardExitAt : HardExitAt) : Except String Instant :=
  hardExitAt arguments.entryAt arguments.policy.hardExitEt arguments.sessionDate

def entryCashflow : ℚ :=
  match arguments.policy.entrySide with
  | .credit => arguments.entryPrice
  | .debit => -arguments.entryPrice

def feesPoints : ℚ := arguments.policy.feesPerLegPerSide * arguments.contractCount * 2 / 100

def armLevel : Option ℚ :=
  arguments.policy.profitArmReturnOnDebit.map fun onDebit => arguments.entryPrice * (1 + onDebit)

/-- An optional exit is on when it has a positive parameter. -/
def enabled (parameter : Option ℚ) : Option ℚ := parameter.filter (0 < ·)

def stopLevel : Option ℚ :=
  (enabled arguments.policy.premiumStopFraction).map (arguments.entryPrice * ·)

def timeStopAt : Option Instant :=
  (arguments.policy.timeStopMinutes.filter (0 < ·)).map fun minutes =>
    arguments.entryAt + minutes * 60000000

/-- The value under which the profit of a credit is taken, once bought back. -/
def takeProfitLevel : Option ℚ :=
  (enabled arguments.policy.creditTakeProfitFraction).map fun fraction =>
    arguments.entryPrice * (1 - fraction) + policyPriceEpsilon

def stopLossLevel : Option ℚ :=
  (enabled arguments.policy.creditStopLossMultiple).map fun multiple =>
    arguments.entryPrice * (1 + multiple) - policyPriceEpsilon

/-! ## The marks' conditions -/

/-- The gap before a mark, and every gap before it, fits. -/
def gapTooLong (gapMax : ℚ) : Bool := arguments.maxQuoteGapSeconds.any (· < gapMax)

def takesProfit (value : ℚ) : Bool := arguments.takeProfitLevel.any (-value ≤ ·)

def stopsLoss (value : ℚ) : Bool := arguments.stopLossLevel.any (· ≤ -value)

def stopsOnTime (at' : Instant) : Bool := arguments.timeStopAt.any (· ≤ at')

def stopsOnPremium (value : ℚ) : Bool :=
  arguments.stopLevel.any fun level => value ≤ level + policyPriceEpsilon

def arms (value : ℚ) : Bool :=
  arguments.armLevel.any fun level => level - policyPriceEpsilon ≤ value

def trailUnder (peak : ℚ) : ℚ :=
  let trail := peak * arguments.policy.trailAfterArmFraction
  if arguments.policy.trailFloorIsEntryDebit then max trail arguments.entryPrice else trail

end PolicyArguments

/-! ## The replay of one list of marks -/

/-- The local variables of the loop. -/
structure ReplayState where
  peak : ℚ
  armed : Bool := false
  timeToArm : Option ℚ := none
  mfe : ℚ := 0
  mae : ℚ := 0
  gapMax : ℚ := 0
  previousAt : Instant

variable (arguments : PolicyArguments)

def ReplayState.start : ReplayState where
  peak := arguments.entryPrice
  previousAt := arguments.entryAt

def creditStep (s : ReplayState) (mark : PolicyMark) : ReplayState × Option ExitReason :=
  if arguments.takesProfit mark.liquidationValue then
    ({ s with armed := true, timeToArm := some (secondsBetween mark.at' arguments.entryAt) },
      some .profitTake)
  else if arguments.stopsLoss mark.liquidationValue then (s, some .stopLoss)
  else (s, none)

def debitStep (s : ReplayState) (mark : PolicyMark) : ReplayState × Option ExitReason :=
  if arguments.stopsOnTime mark.at' then (s, some .timeStop)
  else if arguments.stopsOnPremium mark.liquidationValue then (s, some .premiumStop)
  else if !s.armed && arguments.arms mark.liquidationValue then
    ({ s with
      armed := true
      timeToArm := some (secondsBetween mark.at' arguments.entryAt)
      peak := mark.liquidationValue }, none)
  else if s.armed then
    let peak := max s.peak mark.liquidationValue
    ({ s with peak },
      if mark.liquidationValue < arguments.trailUnder peak - policyPriceEpsilon then some .trail
      else none)
  else (s, none)

/-- One mark: what the loop keeps, and the reason it ends for. -/
def markStep (hardExit : Instant) (s : ReplayState) (mark : PolicyMark) :
    ReplayState × Option ExitReason :=
  let s := { s with gapMax := max s.gapMax (secondsBetween mark.at' s.previousAt) }
  if arguments.gapTooLong s.gapMax then (s, some .quoteGap)
  else
    let pnl := arguments.entryCashflow + mark.liquidationValue
    let s := { s with previousAt := mark.at', mfe := max s.mfe pnl, mae := min s.mae pnl }
    if hardExit ≤ mark.at' then (s, some .hardClose)
    else
      match arguments.policy.entrySide with
      | .credit => creditStep arguments s mark
      | .debit => debitStep arguments s mark

/-- The loop, with the mark and the reason it was left at. -/
def replay (hardExit : Instant) : List PolicyMark → ReplayState →
    ReplayState × Option (PolicyMark × ExitReason)
  | [], s => (s, none)
  | mark :: rest, s =>
    match markStep arguments hardExit s mark with
    | (s, some reason) => (s, some (mark, reason))
    | (s, none) => replay hardExit rest s

/-- `tp_before_stop`'s reasons. -/
def ExitReason.beforeStop : ExitReason → Bool
  | .profitTake | .trail | .hardClose | .timeStop => true
  | _ => false

/-- The label of a finished loop: the mark the position was closed at, if any, and the reason. -/
def policyLabel (s : ReplayState) (exit : Option PolicyMark) (reason : ExitReason) :
    PolicyLabel where
  tpArmed := s.armed
  tpBeforeStop := s.armed && reason.beforeStop
  timeToArmSeconds := s.timeToArm
  mfePoints := roundTo 6 s.mfe
  maePoints := roundTo 6 s.mae
  policyPnlPoints := exit.map fun mark =>
    roundTo 6 (arguments.entryCashflow + mark.liquidationValue - arguments.feesPoints)
  exitReason := reason
  exitAt := exit.map (·.at')
  exitLiquidationValue := exit.map fun mark => roundTo 6 mark.liquidationValue
  quoteGapSecondsMax := roundTo 3 s.gapMax
  policyVersion := arguments.policy.policyVersion
  feesPoints := roundTo 6 arguments.feesPoints

/-- The label of the loop over sorted marks. -/
def replayLabel (hardExit : Instant) (rows : List PolicyMark) : PolicyLabel :=
  match replay arguments hardExit rows (.start arguments) with
  | (s, none) => policyLabel arguments s none .marksExhausted
  | (s, some (_, .quoteGap)) => policyLabel arguments s none .quoteGap
  | (s, some (mark, reason)) => policyLabel arguments s (some mark) reason

def simulateManagementPolicy (hardExitAt : HardExitAt) (marks : List PolicyMark) :
    Except String PolicyLabel := do
  arguments.check
  let rows := (marks.filter fun mark => arguments.entryAt ≤ mark.at').insertionSort
    fun a b => a.at' ≤ b.at'
  let hardExit ← arguments.hardExit hardExitAt
  if hardExit ≤ arguments.entryAt then
    return policyLabel arguments (.start arguments) none .sessionError
  else return replayLabel arguments hardExit rows

end SpxSpark.Options
